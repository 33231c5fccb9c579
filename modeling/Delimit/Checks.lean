import Delimit.Number.Decimal
import Delimit.Text.Colour

/-!
# Chains of checks

A chain of checks runs named steps one after the other, each a command of the
system, and prints a summary with the outcome and the duration of every step.  All
chosen steps are run, whatever becomes of the earlier ones.  How the commands end
is given from outside.
-/

namespace Delimit.Checks

open Delimit.Text (Colour)

structure Step where
  /-- The name by which it is chosen. -/
  name : String
  command : List String
  deriving DecidableEq, Repr

/-- The steps, in the order in which they are run when none is chosen. -/
def steps : List Step :=
  [ ⟨"format", ["uv", "run", "ruff", "format", "--check", "src/", "tests/", "tools/"]⟩,
    ⟨"lint", ["uv", "run", "ruff", "check", "src/", "tests/", "tools/"]⟩,
    ⟨"tests", ["uv", "run", "pytest", "--cov=replcheck", "--cov-report=term-missing"]⟩,
    ⟨"build", ["uv", "build"]⟩ ]

def find?
    (name : List Char) :
    Option Step :=
  steps.find? fun step => step.name.toList == name

structure Ending where
  code : Int
  /-- How long it took, in seconds. -/
  seconds : Number.Binary64
  deriving Repr

def Ending.passed
    (ending : Ending) :
    Bool :=
  ending.code == 0

structure Outcome where
  exit : Nat
  output : List Char
  commands : List (List String)
  deriving Repr

def banner
    (title : String) :
    List Char :=
  let rule := Colour.blue.paint (List.replicate 60 '=')
  rule ++ '\n' :: Colour.blue.paint title.toList ++ '\n' :: rule

def choices : String :=
  ", ".intercalate (steps.map Step.name)

/-- The complaint about names that belong to no step. -/
def complaint
    (unknown : List (List Char)) :
    List Char :=
  let names := [',', ' '].intercalate unknown
  Colour.red.paint
      ("Unknown step(s): ".toList ++ names ++ ". Choose from: ".toList ++ choices.toList) ++
    ['\n']

/-- The line of the summary about a step. -/
def summaryLine
    (step : Step)
    (ending : Ending) :
    List Char :=
  let colour := if ending.passed then Colour.green else Colour.red
  let word := if ending.passed then "PASS" else "FAIL"
  colour.paint
      ("  ".toList ++ word.toList ++ "  ".toList ++ step.name.toList ++ " (".toList ++
        ending.seconds.fixed 1 ++ "s)".toList) ++
    ['\n']

/-- Runs the chosen steps, or all steps if none is chosen, with the endings they come to. -/
def run
    (names : List (List Char))
    (endings : List Ending) :
    Outcome :=
  let unknown := names.filter fun name => (find? name).isNone
  if unknown.isEmpty then
    let selected := if names.isEmpty then steps else names.filterMap find?
    let results := selected.zip endings
    let started := results.flatMap fun result => '\n' :: banner result.1.name ++ ['\n']
    let summary := results.flatMap fun result => summaryLine result.1 result.2
    { exit := if results.all fun result => result.2.passed then 0 else 1
      output := started ++ '\n' :: banner "Summary" ++ '\n' :: summary ++ ['\n']
      commands := results.map fun result => result.1.command }
  else
    { exit := 2, output := complaint unknown, commands := [] }

end Delimit.Checks
