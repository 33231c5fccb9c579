import Delimit.Command.Run

/-!
# The program

The outer layer: it looks at the files that a command line names, lets the command
run on what it found, prints what it says and writes what it wants written.  The
interactive subcommand is served line by line.
-/

namespace Delimit.Main

open Delimit.Command
open Delimit.Files (Path Reason OpenFault System)

/-- What was found at a path. -/
structure Finding where
  path : Path
  /-- The bytes of the file, or the reason why there are none. -/
  bytes : Except OpenFault (List UInt8)
  isFile : Bool
  /-- Why a file cannot be written there. -/
  writeFault? : Option OpenFault

def reasonOf : IO.Error → Reason
  | .noFileOrDirectory .. => .notFound
  | .inappropriateType .. => .isDirectory
  | .noSuchThing .. => .notFound
  | .invalidArgument .. => .nameTooLong
  | _ => .notDirectory

def look
    (path : Path) :
    IO Finding := do
  if path.text.contains '\x00' then
    return {
      path
      bytes := .error .nulInPath
      isFile := false
      writeFault? := some .nulInPath }
  let file := (← IO.currentDir) / String.ofList path.text
  let isFile ←
    try
      pure ((← file.metadata).type == .file)
    catch _ =>
      pure false
  let bytes ←
    try
      if ← file.isDir then
        pure (.error (.refused .isDirectory))
      else
        pure (.ok (← IO.FS.readBinFile file).data.toList)
    catch error =>
      pure (.error (.refused (reasonOf error)))
  let parentExists ←
    match file.parent with
    | some parent => parent.isDir
    | none => pure true
  let writeFault? :=
    match bytes with
    | .error (.refused .isDirectory) => some (.refused .isDirectory)
    | _ => if parentExists then none else some (.refused .notFound)
  return { path, bytes, isFile, writeFault? }

/-- What can be learnt about the files that were looked at. -/
def systemOf
    (findings : List Finding) :
    System where
  bytes := fun path =>
    match findings.find? fun finding => finding.path = path with
    | some finding => finding.bytes
    | none => .error (.refused .notFound)
  isFile := fun path =>
    .ok (findings.any fun finding => finding.path = path && finding.isFile)
  writeFault? := fun path =>
    (findings.find? fun finding => finding.path = path).bind Finding.writeFault?

def pathsOf
    (working : Path) : Request → List Path
  | .task config? task =>
      let config :=
        match config? with
        | some text => Path.ofText text
        | none => working.child Storage.configName
      let files :=
        match task with
        | .split file output? => file :: output?.toList
        | .check file => [file]
        | .repl => []
      config :: files.map Path.ofText
  | _ => []

/-- The host that the program runs on, which ends lines at line feeds. -/
def host : Host := { newlines := .lineFeed }

def display
    (events : List SessionEvent) :
    IO Unit := do
  for event in events do
    match eventOutput host.room event with
    | .ok text => IO.print (String.ofList text)
    | .error _ => throw (IO.userError "a prompt is too long to be shown")
    IO.eprint (String.ofList (eventErrors event))
  (← IO.getStdout).flush

/-- Serves lines, and tells whether the session was ended by its word. -/
def serveLines (config : Config) (validator : Validator) :
    List (List Char) → IO (Option Validator)
  | [] => return some validator
  | raw :: rest => do
      let line := Text.dropLineEnd raw
      if Session.quits validator line then
        return none
      let (shown, validator) := Session.respond validator line
      display (shown ++ [Session.prompt config validator])
      serveLines config validator rest

/-- Serves standard input. -/
partial def serve (config : Config) (validator : Validator) : IO Unit := do
  let raw ← (← IO.getStdin).getLine
  if raw.isEmpty then
    display (Session.close validator)
  else
    match ← serveLines config validator (host.newlines.cut raw.toList) with
    | some validator => serve config validator
    | none => return

/-- Prints and writes what a command leaves behind. -/
def conclude
    (outcome : Outcome) :
    IO UInt32 := do
  if let some (path, text) := outcome.written? then
    IO.FS.writeFile (String.ofList path.text) (String.ofList text)
  IO.print (String.ofList outcome.output)
  IO.eprint (String.ofList outcome.errors)
  return outcome.exit.toUInt32

def giveUp : IO UInt32 := do
  IO.eprintln "Error: the input cannot be processed"
  return 1

def run
    (arguments : List String) :
    IO UInt32 := do
  let working := Path.ofText (toString (← IO.currentDir)).toList
  let request := Request.ofArguments (arguments.map String.toList)
  let findings ← (pathsOf working request).mapM look
  let surroundings : Surroundings :=
    { system := systemOf findings, working, input := [], host }
  match request with
  | .task config? .repl =>
      match resolveConfig surroundings config? with
      | .error _ => giveUp
      | .ok (.error message) => conclude (.failure message)
      | .ok (.ok config) => do
          let validator := Validator.new config.policy
          display [Session.prompt config validator]
          serve config validator
          return 0
  | request =>
      match perform surroundings request with
      | .error _ => giveUp
      | .ok outcome => conclude outcome

end Delimit.Main

def main
    (arguments : List String) :
    IO UInt32 :=
  Delimit.Main.run arguments
