import Delimit.Scan

/-!
# The validator

A validator takes input one line at a time.  After every line it says whether the
input so far can be handed on, needs more lines, or has a closing bracket without
a partner.  It only keeps account of delimiters; the grammar of the language is
the compiler's business.

The lines join into one logical text.  A literal that spans lines joins into a
single line, since a compiler would not accept a real line break inside it: an
unescaped backslash at the end of the text is a splice and is dropped, and any
other break is written as an escape.
-/

namespace Delimit

/-- What a validator says about the input so far. -/
inductive Verdict where
  | complete
  | incomplete
  /-- A closing bracket did not match the innermost open delimiter. -/
  | mismatch
  deriving DecidableEq, Repr, Inhabited

namespace Verdict

def label : Verdict → String
  | complete => "complete"
  | incomplete => "incomplete"
  | mismatch => "mismatch"

def ofLabel?
    (label : List Char) :
    Option Verdict :=
  [complete, incomplete, mismatch].find? fun verdict =>
    verdict.label.toList == label

@[simp]
theorem ofLabel?_label
    (verdict : Verdict) :
    ofLabel? verdict.label.toList = some verdict := by
  cases verdict <;> rfl

end Verdict

/-- The number of backslashes at the end of a text. -/
def trailingBackslashes
    (text : List Char) :
    Nat :=
  (text.reverse.takeWhile (· == '\\')).length

/-- Whether a text ends in a backslash that no other backslash escapes. -/
def endsWithSplice
    (text : List Char) :
    Bool :=
  trailingBackslashes text % 2 == 1

/-- The text that joins the input so far to a new line. -/
def joinLine
    (continuesLiteral : Bool)
    (input line : List Char) :
    List Char :=
  if input.isEmpty then
    line
  else if !continuesLiteral then
    input ++ '\n' :: line
  else if endsWithSplice input then
    input.dropLast ++ line
  else
    input ++ '\\' :: 'n' :: line

/-- A validator with the input it holds. -/
structure Validator where
  policy : Policy
  /-- The logical text of the lines since the last reset. -/
  input : List Char
  stack : Stack
  deriving DecidableEq, Repr

namespace Validator

def new
    (policy : Policy) :
    Validator :=
  ⟨policy, [], .empty⟩

instance : Inhabited Validator := ⟨new {}⟩

/-- The number of open delimiters, by which continuation prompts are indented. -/
def expectedIndent
    (validator : Validator) :
    Nat :=
  validator.stack.depth

def inComment
    (validator : Validator) :
    Bool :=
  validator.stack.inComment

/-- Whether the next line goes on with a literal. -/
def continuesLiteral
    (validator : Validator) :
    Bool :=
  match validator.stack.top? with
  | some (.literal _) => true
  | _ => false

/-- Whether any input is held or anything is open. -/
def isPending
    (validator : Validator) :
    Bool :=
  !validator.input.isEmpty || validator.expectedIndent != 0

def verdictOf
    (scan : Scan) :
    Verdict :=
  if scan.mismatched then
    .mismatch
  else if scan.stack.isEmpty then
    .complete
  else
    .incomplete

/-- Scans a line and adds it to the input. -/
def validate
    (validator : Validator)
    (line : List Char) :
    Verdict × Validator :=
  let scan := Scan.ofLine validator.policy validator.stack line
  ( verdictOf scan,
    { validator with
      input := joinLine validator.continuesLiteral validator.input line
      stack := scan.stack } )

/-- Forgets the input and everything that is open. -/
def reset
    (validator : Validator) :
    Validator :=
  { validator with input := [], stack := .empty }

def takeInput
    (validator : Validator) :
    List Char × Validator :=
  (validator.input, validator.reset)

/-- Scans lines one after the other and gives the verdict on the last one. -/
def validateAll
    (validator : Validator) :
    List (List Char) → Option Verdict × Validator
  | [] => (none, validator)
  | line :: lines =>
      let (verdict, validator) := validator.validate line
      match validator.validateAll lines with
      | (none, validator) => (some verdict, validator)
      | (some last, validator) => (some last, validator)

@[simp]
theorem policy_validate
    (validator : Validator)
    (line : List Char) :
    (validator.validate line).2.policy = validator.policy := rfl

@[simp]
theorem policy_reset
    (validator : Validator) :
    validator.reset.policy = validator.policy := rfl

@[simp]
theorem input_reset
    (validator : Validator) :
    validator.reset.input = [] := rfl

@[simp]
theorem stack_reset
    (validator : Validator) :
    validator.reset.stack = .empty := rfl

theorem input_validate
    (validator : Validator)
    (line : List Char) :
    (validator.validate line).2.input =
      joinLine validator.continuesLiteral validator.input line := rfl

end Validator

end Delimit
