import Delimit.Calendar
import Delimit.Checks
import Delimit.Command.Arguments
import Delimit.Command.Line
import Delimit.Command.Run
import Delimit.CommentTrend
import Delimit.Config
import Delimit.Files.Fault
import Delimit.Files.Path
import Delimit.Files.Tree
import Delimit.Lexeme
import Delimit.Literal
import Delimit.Main
import Delimit.Number.Binary64
import Delimit.Number.Decimal
import Delimit.Number.Rounding
import Delimit.Policy
import Delimit.Proofs.BalancedWords
import Delimit.Proofs.BlockReading
import Delimit.Proofs.BracketVerdicts
import Delimit.Proofs.BuriedBrackets
import Delimit.Proofs.CharacterMachine
import Delimit.Proofs.CharacterRefinement
import Delimit.Proofs.CheckedOperations
import Delimit.Proofs.ClosingLines
import Delimit.Proofs.ClosingQuotes
import Delimit.Proofs.CommandAgreement
import Delimit.Proofs.CommentClosing
import Delimit.Proofs.CommentLife
import Delimit.Proofs.ConfigSchema
import Delimit.Proofs.CountedComments
import Delimit.Proofs.CursorMoves
import Delimit.Proofs.DelimiterSpans
import Delimit.Proofs.EntrySteps
import Delimit.Proofs.HandedOver
import Delimit.Proofs.IncrementalSplitting
import Delimit.Proofs.IndexedReading
import Delimit.Proofs.LastMarker
import Delimit.Proofs.LexemeForm
import Delimit.Proofs.LineSeams
import Delimit.Proofs.LineTerminators
import Delimit.Proofs.LiteralReading
import Delimit.Proofs.LiteralSuspension
import Delimit.Proofs.LoadedConfigs
import Delimit.Proofs.LoadingFaults
import Delimit.Proofs.LogicalText
import Delimit.Proofs.MappingKeys
import Delimit.Proofs.NodeFaults
import Delimit.Proofs.NormalForms
import Delimit.Proofs.Occurrences
import Delimit.Proofs.OffsetRefinement
import Delimit.Proofs.OffsetScan
import Delimit.Proofs.Partition
import Delimit.Proofs.PlainGraphs
import Delimit.Proofs.PlainReading
import Delimit.Proofs.PlainValues
import Delimit.Proofs.PrintedSessions
import Delimit.Proofs.QuotedReading
import Delimit.Proofs.QuotedWriting
import Delimit.Proofs.ReaderFaults
import Delimit.Proofs.ReaderSteps
import Delimit.Proofs.Resplitting
import Delimit.Proofs.RightmostMarker
import Delimit.Proofs.ScanMoves
import Delimit.Proofs.ScanStep
import Delimit.Proofs.Segmentation
import Delimit.Proofs.SessionPrompts
import Delimit.Proofs.SessionUnits
import Delimit.Proofs.Spelled
import Delimit.Proofs.StackShape
import Delimit.Proofs.StoredTranscripts
import Delimit.Proofs.SuffixScans
import Delimit.Proofs.TokenFaults
import Delimit.Proofs.TranscriptNodes
import Delimit.Proofs.TranscriptTokens
import Delimit.Proofs.TranscriptValues
import Delimit.Proofs.Unwinding
import Delimit.Proofs.ValidatorRun
import Delimit.Proofs.ValueFaults
import Delimit.Proofs.WaitingEscapes
import Delimit.Proofs.WalkTiling
import Delimit.Proofs.WrittenCharacters
import Delimit.Proofs.WrittenFiles
import Delimit.Proofs.WrittenNumbers
import Delimit.Proofs.WrittenRuns
import Delimit.Scan
import Delimit.Session
import Delimit.Splitter
import Delimit.Stack
import Delimit.Storage
import Delimit.Text.Base64
import Delimit.Text.Blank
import Delimit.Text.Colour
import Delimit.Text.Digit
import Delimit.Text.Lines
import Delimit.Text.Quoted
import Delimit.Text.Ranges
import Delimit.Text.Shown
import Delimit.Text.Utf8
import Delimit.Text.Word
import Delimit.Token
import Delimit.Transcript
import Delimit.Transcript.Integer
import Delimit.Transcript.Schema
import Delimit.Transcript.Written
import Delimit.Validator
import Delimit.Walk
import Delimit.Yaml.Character
import Delimit.Yaml.Construction
import Delimit.Yaml.Cursor
import Delimit.Yaml.Document
import Delimit.Yaml.Fault
import Delimit.Yaml.Graph
import Delimit.Yaml.Meaning
import Delimit.Yaml.Merge
import Delimit.Yaml.Node
import Delimit.Yaml.Scalar
import Delimit.Yaml.Style
import Delimit.Yaml.Tag
import Delimit.Yaml.Timestamp
import Delimit.Yaml.Token
import Delimit.Yaml.Token.Block
import Delimit.Yaml.Token.Flow
import Delimit.Yaml.Token.Plain
import Delimit.Yaml.Token.Property
import Delimit.Yaml.Token.Reading
import Delimit.Yaml.Value
import Delimit.Yaml.Written
