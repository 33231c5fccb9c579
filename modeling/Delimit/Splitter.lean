import Delimit.Text.Blank
import Delimit.Text.Lines
import Delimit.Transcript

/-!
# Splitting lines into units

A unit is what a session dispatches in one piece: consecutive lines up to a line
that completes them or reveals a mismatch.  Complete units of nothing but blanks
are dropped.  What is still pending when the lines run out is one last incomplete
unit.  Lines are numbered from 1, and input that a validator already holds counts
as beginning on line 1.
-/

namespace Delimit

/-- Where a splitter stands between two lines. -/
structure Splitter where
  /-- The validator that the lines are fed to. -/
  validator : Validator
  /-- The index of the next unit. -/
  index : Nat := 0
  /-- The first line of the unit that is being assembled. -/
  firstLine : Nat := 1
  /-- The number of lines that were read. -/
  lineNumber : Nat := 0
  deriving Repr

namespace Splitter

/-- Whether a unit with this verdict and text is dropped. -/
def isDropped
    (verdict : Verdict)
    (text : List Char) :
    Bool :=
  verdict == .complete && Text.isAllBlank text

/-- Reads one line, which may end a unit. -/
def feed
    (splitter : Splitter)
    (raw : List Char) :
    Option UnitRecord × Splitter :=
  let lineNumber := splitter.lineNumber + 1
  let firstLine :=
    if splitter.validator.input.isEmpty then lineNumber else splitter.firstLine
  let (verdict, validator) := splitter.validator.validate (Text.dropLineEnd raw)
  if verdict = .incomplete then
    (none, { splitter with validator, firstLine, lineNumber })
  else
    let (text, validator) := validator.takeInput
    if isDropped verdict text then
      (none, { splitter with validator, firstLine, lineNumber })
    else
      ( some
          { index := splitter.index
            firstLine
            lastLine := lineNumber
            status := verdict
            text },
        { splitter with
          validator
          index := splitter.index + 1
          firstLine
          lineNumber } )

/-- Hands over what is pending after the last line. -/
def finish
    (splitter : Splitter) :
    Option UnitRecord × Validator :=
  if splitter.validator.isPending then
    let (text, validator) := splitter.validator.takeInput
    ( some
        { index := splitter.index
          firstLine := splitter.firstLine
          lastLine := max splitter.lineNumber splitter.firstLine
          status := .incomplete
          text },
      validator )
  else
    (none, splitter.validator)

/-- The units of the remaining lines, and the validator after them. -/
def units
    (splitter : Splitter) :
    List (List Char) → List UnitRecord × Validator
  | [] =>
      let (last, validator) := splitter.finish
      (last.toList, validator)
  | raw :: lines =>
      let (unit, splitter) := splitter.feed raw
      let (later, validator) := splitter.units lines
      (unit.toList ++ later, validator)

end Splitter

/-- The units of a list of lines, and the validator after them. -/
def splitUnits
    (validator : Validator)
    (lines : List (List Char)) :
    List UnitRecord × Validator :=
  Splitter.units { validator } lines

namespace Transcript

/-- The transcript of a list of lines, and the validator after them. -/
def ofLines
    (source : List Char)
    (validator : Validator)
    (lines : List (List Char)) :
    Transcript × Validator :=
  let (units, validator) := splitUnits validator lines
  (⟨source, units⟩, validator)

end Transcript

end Delimit
