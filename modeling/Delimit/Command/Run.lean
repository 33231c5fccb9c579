import Delimit.Command.Line
import Delimit.Session
import Delimit.Splitter
import Delimit.Storage
import Delimit.Text.Colour

/-!
# Running commands

A command reads files and standard input, and leaves behind an exit code, what it
printed, and possibly a file to be written.  Everything it can learn about the
outside is given to it beforehand.
-/

namespace Delimit.Command

open Delimit.Files (Path System)
open Delimit.Storage (Breakdown)

/-- What a host makes of standard input and of long texts. -/
structure Host where
  /-- What ends a line of standard input; on POSIX, it is line feeds only. -/
  newlines : Text.Newlines := .universal
  /--
  The length of the longest text that can be made.  No host goes beyond its range of
  indices, which is the default; one with little memory stops short of it.
  -/
  room : Nat := 0x7FFFFFFFFFFFFFFF
  deriving DecidableEq, Repr

/-- What a command can learn about the outside. -/
structure Surroundings where
  system : System
  working : Path
  input : List UInt8
  host : Host := {}

structure Outcome where
  exit : Nat
  output : List Char := []
  errors : List Char := []
  written? : Option (Path × List Char) := none

namespace Outcome

/-- The outcome of a refused request: an exit code and a line for errors. -/
def failure
    (message : String) :
    Outcome :=
  { exit := 1, errors := ("Error: " ++ message ++ "\n").toList }

end Outcome

def verdictColour : Verdict → Text.Colour
  | .complete => .green
  | .incomplete => .yellow
  | .mismatch => .red

/-- What is wrong with a unit that ended with a verdict. -/
def problem : Verdict → String
  | .mismatch => "closing delimiter does not match the innermost open one"
  | _ => "input ends inside an open bracket, comment or literal"

def describeLines
    (unit : UnitRecord) :
    String :=
  if unit.firstLine = unit.lastLine then
    "line " ++ toString unit.firstLine
  else
    "lines " ++ toString unit.firstLine ++ "-" ++ toString unit.lastLine

def printed
    (line : List Char) :
    List Char :=
  line ++ ['\n']

/-! ## Files of units -/

/-- The transcript of a file, or the complaint that there is no such file. -/
def splitFile
    (system : System)
    (config : Config)
    (path : Path) :
    Except Breakdown (Except String Transcript) :=
  let shown := String.ofList path.text
  match system.isFile path with
  | .error reason => .error (.refused reason)
  | .ok false => .ok (.error ("file '" ++ shown ++ "' does not exist."))
  | .ok true =>
      match system.readText path with
      | .error .undecodable => .error .undecodable
      | .error (.unopened .nulInPath) => .error .nulInPath
      | .error (.unopened (.refused reason)) =>
          .ok (.error ("cannot read '" ++ shown ++ "': " ++ reason.message path))
      | .ok text =>
          let validator := Validator.new config.policy
          .ok (.ok (Transcript.ofLines path.text validator (Text.linesWithEnds text)).1)

def exitOf
    (transcript : Transcript) :
    Nat :=
  if transcript.hasErrors then 1 else 0

def printedUnit
    (unit : UnitRecord) :
    List Char :=
  let status := (verdictColour unit.status).paint unit.status.label.toList
  printed
      ('[' :: Nat.toDigits 10 (unit.index + 1) ++ "] ".toList ++ status ++
        " (".toList ++ (describeLines unit).toList ++ [')']) ++
    printed unit.text

/-- Splits a file, and has the transcript written if there is a path for it. -/
def runSplit
    (system : System)
    (config : Config)
    (file : List Char)
    (output? : Option (List Char)) :
    Except Breakdown Outcome := do
  match ← splitFile system config (Path.ofText file) with
  | .error message => return .failure message
  | .ok transcript =>
      let units := transcript.units.flatMap printedUnit
      match output? with
      | none => return { exit := exitOf transcript, output := units }
      | some output =>
          let path := Path.ofText output
          match Storage.saveTranscript system path transcript with
          | .error (.broken cause) => throw cause
          | .error (.reported fault) => return { Outcome.failure fault.message with output := units }
          | .ok text =>
              let note := printed ("Transcript written: ".toList ++ output)
              return {
                exit := exitOf transcript
                output := units ++ note
                written? := some (path, text) }

def complaint
    (unit : UnitRecord) :
    List Char :=
  printed ("Error: " ++ describeLines unit ++ ": " ++ problem unit.status).toList

def runCheck
    (system : System)
    (config : Config)
    (file : List Char) :
    Except Breakdown Outcome := do
  match ← splitFile system config (Path.ofText file) with
  | .error message => return .failure message
  | .ok transcript =>
      let count := toString transcript.units.length
      let heading := printed ("Checking " ++ count ++ " unit(s)...").toList
      let verdict :=
        if transcript.hasErrors then
          []
        else
          printed (Text.Colour.green.paint "No issues found.".toList)
      return {
        exit := exitOf transcript
        output := heading ++ verdict
        errors := (transcript.units.filter UnitRecord.isError).flatMap complaint }

/-! ## Sessions -/

/-- The characters of a prompt, unless they are more than can be made. -/
def promptText
    (room : Nat)
    (prompt : Prompt) :
    Except Breakdown (List Char) :=
  if prompt.length ≤ room then
    .ok prompt.characters
  else
    .error (.value .overflow)

/-- What a session prints for an event. -/
def eventOutput
    (room : Nat) :
    SessionEvent → Except Breakdown (List Char)
  | .prompt shown => promptText room shown
  | .echo text => .ok (printed text)
  | .mismatch => .ok []
  | .discarded text =>
      .ok ('\n' :: printed ("Warning: discarding incomplete input: ".toList ++ Text.quoted text))

/--
What a session prints for events.  It breaks down at the first that it cannot show, and
what it has printed until then is not kept.
-/
def sessionOutput
    (room : Nat) :
    List SessionEvent → Except Breakdown (List Char)
  | [] => .ok []
  | event :: events => do
      let first ← eventOutput room event
      let later ← sessionOutput room events
      return first ++ later

/-- What a session prints for errors for an event. -/
def eventErrors : SessionEvent → List Char
  | .mismatch => printed ("Error: " ++ problem .mismatch).toList
  | _ => []

def runRepl
    (host : Host)
    (config : Config)
    (input : List UInt8) :
    Except Breakdown Outcome :=
  match Text.decodeUtf8? input with
  | none => .error .undecodable
  | some text => do
      let events := Session.events config (host.newlines.cut text)
      let output ← sessionOutput host.room events
      return { exit := 0, output, errors := events.flatMap eventErrors }

/-! ## Command lines -/

/-- The path of the configuration in use, if there is one. -/
def configPath
    (surroundings : Surroundings)
    (given? : Option (List Char)) :
    Except Breakdown (Option Path) :=
  match given? with
  | some text => .ok (some (Path.ofText text))
  | none =>
      (Storage.findConfig surroundings.system surroundings.working).mapError .refused

/-- The configuration in use, or the complaint that it cannot be read. -/
def resolveConfig
    (surroundings : Surroundings)
    (given? : Option (List Char)) :
    Except Breakdown (Except String Config) := do
  match ← configPath surroundings given? with
  | none => return .ok {}
  | some path =>
      match Storage.loadConfig surroundings.system path with
      | .ok config => return .ok config
      | .error (.reported fault) => return .error fault.message
      | .error (.broken cause) => throw cause

def perform
    (surroundings : Surroundings) :
    Request → Except Breakdown Outcome
  | .help level => .ok { exit := 0, output := level.help.toList }
  | .complaint level fault =>
      .ok
        { exit := 2
          errors :=
            (level.usage ++ level.title ++ ": error: " ++ fault.message ++ "\n").toList }
  | .task config? task => do
      match ← resolveConfig surroundings config? with
      | .error message => return .failure message
      | .ok config =>
          match task with
          | .split file output? => runSplit surroundings.system config file output?
          | .check file => runCheck surroundings.system config file
          | .repl => runRepl surroundings.host config surroundings.input

def run
    (surroundings : Surroundings)
    (arguments : List (List Char)) :
    Except Breakdown Outcome :=
  perform surroundings (Request.ofArguments arguments)

end Delimit.Command
