import Delimit.Command.Arguments

/-!
# The command line

The program has three subcommands: one that splits a file into units, one that
checks a file, and an interactive one.  The program and each subcommand have a
usage line and a help text.
-/

namespace Delimit.Command

inductive Level where
  | program
  | split
  | check
  | repl
  deriving DecidableEq, Repr

namespace Level

def choices : List (String × Level) :=
  [("split", split), ("check", check), ("repl", repl)]

/-- The name of the program with a subcommand. -/
def title : Level → String
  | program => "replcheck"
  | split => "replcheck split"
  | check => "replcheck check"
  | repl => "replcheck repl"

def flags : Level → Flags
  | program => ⟨some "--config", .rest⟩
  | split => ⟨some "--transcript", .one⟩
  | check => ⟨none, .one⟩
  | repl => ⟨none, .none⟩

def usage : Level → String
  | program => "usage: replcheck [-h] [--config FILE] COMMAND ...\n"
  | split => "usage: replcheck split [-h] [--transcript OUT] file\n"
  | check => "usage: replcheck check [-h] file\n"
  | repl => "usage: replcheck repl [-h]\n"

/-- What the help text of a level says after the usage line. -/
def explanation : Level → String
  | program =>
      "\nreplcheck - line-by-line completeness checks for REPL input\n" ++
      "\npositional arguments:\n" ++
      "  COMMAND\n" ++
      "    split        Split a file into the units a REPL would dispatch\n" ++
      "    check        Report unbalanced or unterminated input in a file\n" ++
      "    repl         Read input interactively with continuation prompts\n" ++
      "\noptions:\n" ++
      "  -h, --help     show this help message and exit\n" ++
      "  --config FILE  Configuration file (default: .replcheck.yaml in the current\n" ++
      "                 directory, if present)\n"
  | split =>
      "\nFeed a file line by line to the validator and print every unit.\n" ++
      "\npositional arguments:\n" ++
      "  file              Input file to split\n" ++
      "\noptions:\n" ++
      "  -h, --help        show this help message and exit\n" ++
      "  --transcript OUT  Also write the units to a YAML transcript file\n"
  | check =>
      "\nReport units that end in a mismatch or are left incomplete.\n" ++
      "\npositional arguments:\n" ++
      "  file        Input file to check\n" ++
      "\noptions:\n" ++
      "  -h, --help  show this help message and exit\n"
  | repl =>
      "\nRead lines from standard input and echo every complete unit. Enter '.q' to\n" ++
      "quit.\n" ++
      "\noptions:\n" ++
      "  -h, --help  show this help message and exit\n"

def help
    (level : Level) :
    String :=
  level.usage ++ level.explanation

end Level

/-- What a subcommand is to do. -/
inductive Task where
  /-- Split a file, and write the units to another one if there is a path for it. -/
  | split (file : List Char) (output? : Option (List Char))
  | check (file : List Char)
  | repl
  deriving DecidableEq, Repr

/-- What a command line asks for. -/
inductive Request where
  | help (level : Level)
  /-- A complaint about the arguments of a level. -/
  | complaint (level : Level) (fault : ArgumentFault)
  /-- A task, with the path of a configuration if one is given. -/
  | task (config? : Option (List Char)) (task : Task)
  deriving DecidableEq, Repr

namespace Request

/-- The task that the arguments of a subcommand describe. -/
def taskOf
    (level : Level)
    (arguments : Arguments) :
    Task :=
  let file := (arguments.positional?.bind List.head?).getD []
  match level with
  | .split => .split file arguments.value?
  | .check => .check file
  | _ => .repl

/-- What a subcommand and its arguments ask for, given what the program's own arguments say. -/
def ofSubcommand
    (outer : Arguments)
    (word : List Char)
    (rest : List (List Char)) :
    Request :=
  match Level.choices.find? fun choice => choice.1.toList == word with
  | none =>
      .complaint .program (.invalidChoice word (Level.choices.map Prod.fst))
  | some (_, level) =>
      match understand level.flags rest with
      | .error fault => .complaint level fault
      | .ok .help => .help level
      | .ok (.arguments inner) =>
          let extras := outer.extras ++ inner.extras
          if extras.isEmpty then
            .task outer.value? (taskOf level inner)
          else
            .complaint .program (.unrecognized extras)

/-- What a command line asks for; without a subcommand, that is the help text. -/
def ofArguments
    (arguments : List (List Char)) :
    Request :=
  match understand Level.program.flags arguments with
  | .error fault => .complaint .program fault
  | .ok .help => .help .program
  | .ok (.arguments outer) =>
      match outer.positional? with
      | some (word :: rest) => ofSubcommand outer word rest
      | _ =>
          if outer.extras.isEmpty then
            .help .program
          else
            .complaint .program (.unrecognized outer.extras)

end Request

end Delimit.Command
