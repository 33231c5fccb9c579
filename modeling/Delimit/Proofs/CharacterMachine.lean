import Delimit.Proofs.LexemeForm
import Delimit.Proofs.LiteralReading
import Delimit.Proofs.StackShape

/-!
# A machine that reads characters

The rules of comments and literals can be put without tokens.  The machine reads
one character after the other.  In code, a slash behind a slash ignores the rest of
the line, an asterisk behind a slash begins a comment, a quote begins a literal,
an opening bracket is opened, and a closing bracket closes its partner or is a
mismatch, which ignores the rest of the line.  In a comment, a slash behind an
asterisk goes back to code.  In a literal, a backslash escapes the next character,
and the quote goes back to code.

The character just before is remembered as far as it matters, so that a marker of
two characters never shares a character with the marker before it.
-/

namespace Delimit

def Bracket.ofOpening? : Char → Option Bracket
  | '(' => some paren
  | '[' => some square
  | '{' => some brace
  | _ => none

def Bracket.ofClosing? : Char → Option Bracket
  | ')' => some paren
  | ']' => some square
  | '}' => some brace
  | _ => none

/-- What a machine takes the next character for. -/
inductive Reading where
  /-- Code, possibly right behind a slash. -/
  | code (afterSlash : Bool)
  /-- A comment, possibly right behind an asterisk of its text. -/
  | comment (afterAsterisk : Bool)
  /-- A literal, possibly right behind a backslash that escapes. -/
  | literal (quote : Quote) (escaping : Bool)
  /-- The rest of a line that is ignored. -/
  | ignored
  deriving DecidableEq, Repr

/-- A machine that reads characters. -/
structure Machine where
  /-- What the next character is taken for. -/
  reading : Reading
  /-- The brackets that are open, the innermost first. -/
  opened : List Bracket
  /-- Whether a closing bracket of this line did not match. -/
  mismatched : Bool := false
  deriving DecidableEq, Repr

namespace Machine

/-- The machine that has read nothing. -/
def start : Machine := ⟨.code false, [], false⟩

/-- Reads a character of code that completes no marker. -/
def stepCode
    (machine : Machine)
    (character : Char) :
    Machine :=
  match Bracket.ofOpening? character with
  | some bracket =>
      ⟨.code false, bracket :: machine.opened, machine.mismatched⟩
  | none =>
      match Bracket.ofClosing? character with
      | some bracket =>
          if machine.opened.head? = some bracket then
            ⟨.code false, machine.opened.tail, machine.mismatched⟩
          else
            ⟨.ignored, machine.opened, true⟩
      | none =>
          match Quote.ofCharacter? character with
          | some quote => { machine with reading := .literal quote false }
          | none => { machine with reading := .code (character == '/') }

/-- Reads a character. -/
def step
    (machine : Machine)
    (character : Char) :
    Machine :=
  match machine.reading with
  | .code afterSlash =>
      if afterSlash && character == '/' then
        { machine with reading := .ignored }
      else if afterSlash && character == '*' then
        { machine with reading := .comment false }
      else
        machine.stepCode character
  | .comment afterAsterisk =>
      if afterAsterisk && character == '/' then
        { machine with reading := .code false }
      else
        { machine with reading := .comment (character == '*') }
  | .literal quote escaping =>
      if escaping then
        { machine with reading := .literal quote false }
      else if character = '\\' then
        { machine with reading := .literal quote true }
      else if character = quote.character then
        { machine with reading := .code false }
      else
        machine
  | .ignored => machine

def read
    (machine : Machine)
    (text : List Char) :
    Machine :=
  text.foldl step machine

/--
Goes on to the next line.  A comment stays open, and so does a literal if the
policy says so; an escape ends with its line.
-/
def endLine
    (policy : Policy)
    (machine : Machine) :
    Machine :=
  match machine.reading with
  | .comment _ => ⟨.comment false, machine.opened, false⟩
  | .literal quote _ =>
      if policy.continueUnterminatedLiterals then
        ⟨.literal quote false, machine.opened, false⟩
      else
        ⟨.code false, machine.opened, false⟩
  | .code _ => ⟨.code false, machine.opened, false⟩
  | .ignored => ⟨.code false, machine.opened, false⟩

/-- Whether the machine is inside a comment. -/
def inComment
    (machine : Machine) :
    Bool :=
  match machine.reading with
  | .comment _ => true
  | _ => false

/-- The delimiters that are open. -/
def stack
    (machine : Machine) :
    Stack :=
  match machine.reading with
  | .comment _ => .ofComment [] machine.opened
  | .literal quote _ => .ofLiteral quote machine.opened
  | .code _ => .ofCode machine.opened
  | .ignored => .ofCode machine.opened

/-- Reads a line to its end, with the verdict on it. -/
def validate
    (policy : Policy)
    (machine : Machine)
    (line : List Char) :
    Verdict × Machine :=
  let last := machine.read line
  let next := last.endLine policy
  ( if last.mismatched then
      .mismatch
    else if next.stack.isEmpty then
      .complete
    else
      .incomplete,
    next )

def after
    (policy : Policy)
    (machine : Machine) :
    List (List Char) → Machine
  | [] => machine
  | line :: lines => (machine.validate policy line).2.after policy lines

def verdicts
    (policy : Policy)
    (machine : Machine) :
    List (List Char) → List Verdict
  | [] => []
  | line :: lines =>
      (machine.validate policy line).1 ::
        (machine.validate policy line).2.verdicts policy lines

/-- No line comment mark of a text begins where the machine is inside a comment. -/
def Avoids
    (machine : Machine)
    (text : List Char) :
    Prop :=
  ∀ offset, offset < text.length →
    text[offset]? = some '/' → text[offset + 1]? = some '/' →
      (machine.read (text.take offset)).inComment = false

instance
    (machine : Machine)
    (text : List Char) :
    Decidable (machine.Avoids text) := by
  unfold Avoids
  infer_instance

/-- No line comment mark of any line begins where the machine is inside a comment. -/
def AvoidsAll
    (policy : Policy)
    (machine : Machine) :
    List (List Char) → Prop
  | [] => True
  | line :: lines =>
      machine.Avoids line ∧
        (machine.validate policy line).2.AvoidsAll policy lines

instance decidableAvoidsAll
    (policy : Policy) :
    (machine : Machine) →
      (lines : List (List Char)) →
        Decidable (machine.AvoidsAll policy lines)
  | _, [] => .isTrue trivial
  | machine, line :: lines =>
      @instDecidableAnd _ _ _
        (decidableAvoidsAll policy (machine.validate policy line).2 lines)

theorem read_append
    (machine : Machine)
    (front back : List Char) :
    machine.read (front ++ back) = (machine.read front).read back :=
  List.foldl_append

@[simp]
theorem read_cons
    (machine : Machine)
    (character : Char)
    (rest : List Char) :
    machine.read (character :: rest) = (machine.step character).read rest := rfl

@[simp]
theorem read_nil
    (machine : Machine) :
    machine.read [] = machine := rfl

end Machine

end Delimit
