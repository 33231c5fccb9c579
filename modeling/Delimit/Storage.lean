import Delimit.Config
import Delimit.Files.Tree
import Delimit.Text.Lines
import Delimit.Transcript.Written

/-!
# Stored configurations and transcripts

Configurations and transcripts are kept in files.  Reading one either gives it,
reports why not, or breaks down: bytes that are not UTF-8, a path that is none, a
scalar that is no value of its tag and a number that is too long are not reported.
-/

namespace Delimit.Storage

open Delimit.Files (Path Reason OpenFault System)

/-- The ways in which a command or an operation on a file breaks down. -/
inductive Breakdown where
  /-- The bytes of a file, or of standard input, are not UTF-8. -/
  | undecodable
  | nulInPath
  /-- The system refuses to look at a path. -/
  | refused (reason : Reason)
  /-- A value breaks down: that of a scalar, or one that is made from a configuration. -/
  | value (cause : Yaml.Breakdown)
  deriving DecidableEq, Repr

/-- What an operation on a file may run into: a fault that is reported, or a breakdown. -/
inductive Trouble (ε : Type) where
  | reported (fault : ε)
  | broken (cause : Breakdown)
  deriving Repr

/-- The text of a file with its line ends unified, if the system lets it be read. -/
def readUnified
    {ε : Type}
    (system : System)
    (path : Path)
    (refusal : Reason → ε) :
    Except (Trouble ε) (List Char) :=
  match system.readText path with
  | .ok text => .ok (Text.unifyLineEnds text)
  | .error (.unopened (.refused reason)) => .error (.reported (refusal reason))
  | .error (.unopened .nulInPath) => .error (.broken .nulInPath)
  | .error .undecodable => .error (.broken .undecodable)

/-- The value of the document in a text. -/
def readValue
    {ε : Type}
    (text : List Char)
    (invalid : ε) :
    Except (Trouble ε) Yaml.Value :=
  match Yaml.read text with
  | .ok value => .ok value
  | .error fault =>
      match fault.breakdown? with
      | some cause => .error (.broken (.value cause))
      | none => .error (.reported invalid)

/-! ## Configurations -/

/-- The name of the file that holds the configuration of a directory. -/
def configName : List Char := ".replcheck.yaml".toList

/-- The faults of a configuration file. -/
inductive ConfigFault where
  | notFound (path : Path)
  | unreadable (reason : Reason) (path : Path)
  | noDocument (path : Path)
  | noConfig (fault : Config.Fault) (path : Path)
  deriving DecidableEq, Repr

/--
The words for a fault.  A document that is none is reported without the words of the
format's own reader, which follow behind a colon.
-/
def ConfigFault.message : ConfigFault → String
  | notFound path => "Config file not found: " ++ String.ofList path.text
  | unreadable reason path => "Cannot read config file: " ++ reason.message path
  | noDocument path => "Invalid YAML in " ++ String.ofList path.text
  | noConfig fault path => String.ofList path.text ++ ": " ++ fault.words

/-- Whether a mapping has a key that is too long to be shown. -/
def hasLongKey : Yaml.Value → Bool
  | .mapping entries => entries.any fun entry => entry.1.isTooLong
  | _ => false

/--
Reads a configuration.  A number is never the key of a field, and one that cannot
be shown in the message that reports it is a breakdown.
-/
def loadConfig
    (system : System)
    (path : Path) :
    Except (Trouble ConfigFault) Config := do
  let text ← readUnified system path fun reason =>
    if reason = .notFound then .notFound path else .unreadable reason path
  let value ← readValue text (.noDocument path)
  if hasLongKey value then
    throw (.broken (.value .badNumber))
  (Config.ofValue value).mapError fun fault => .reported (.noConfig fault path)

/-- The configuration file of a directory, if it has one. -/
def findConfig
    (system : System)
    (directory : Path) :
    Except Reason (Option Path) := do
  let path := directory.child configName
  return if ← system.isFile path then some path else none

/-! ## Transcripts -/

/-- The faults of a transcript file. -/
inductive TranscriptFault where
  | unreadable (reason : Reason) (path : Path)
  | unwritable (reason : Reason) (path : Path)
  | noDocument (path : Path)
  | noTranscript (faults : List Transcript.Schema.Fault) (path : Path)
  deriving DecidableEq, Repr

/--
The words for a fault.  Those of the format's own reader and those for the faults of the
schema, which follow behind a colon, are left out.
-/
def TranscriptFault.message : TranscriptFault → String
  | unreadable reason path =>
      "Cannot read transcript '" ++ String.ofList path.text ++ "': " ++ reason.message path
  | unwritable reason path =>
      "Cannot write transcript '" ++ String.ofList path.text ++ "': " ++ reason.message path
  | noDocument path => "Invalid YAML in transcript '" ++ String.ofList path.text ++ "'"
  | noTranscript _ path => "Invalid transcript '" ++ String.ofList path.text ++ "'"

/-- The value of a transcript's document; the document of nothing is an empty mapping. -/
def orEmptyMapping : Yaml.Value → Yaml.Value
  | .scalar .null => .mapping []
  | value => value

def loadTranscript
    (system : System)
    (path : Path) :
    Except (Trouble TranscriptFault) Transcript := do
  let text ← readUnified system path fun reason => .unreadable reason path
  let value ← readValue text (.noDocument path)
  (Transcript.Schema.read (orEmptyMapping value)).mapError fun faults =>
    .reported (.noTranscript faults path)

/--
The text that a transcript is written as, if the file can be written.  The text is made
before the file is opened.
-/
def saveTranscript
    (system : System)
    (path : Path)
    (transcript : Transcript) :
    Except (Trouble TranscriptFault) (List Char) :=
  if transcript.hasLongNumber then
    .error (.broken (.value .badNumber))
  else
    match system.writeFault? path with
    | none => .ok transcript.written
    | some (.refused reason) => .error (.reported (.unwritable reason path))
    | some .nulInPath => .error (.broken .nulInPath)

end Delimit.Storage
