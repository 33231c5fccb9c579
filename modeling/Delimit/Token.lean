/-!
# Kinds of token

A line is read as a sequence of tokens: the six brackets, the two quotes that
begin a literal, the slash and the asterisk that block comment markers are made
of, the hash, identifiers, everything else as one token a character, and the end
of the line.  The kinds are numbered, and every closing bracket is numbered one
above its opening bracket.
-/

namespace Delimit

inductive Bracket where
  | paren
  | square
  | brace
  deriving DecidableEq, Repr

namespace Bracket

/-- The character that opens a bracket of this shape. -/
def opening : Bracket → Char
  | paren => '('
  | square => '['
  | brace => '{'

/-- The character that closes a bracket of this shape. -/
def closing : Bracket → Char
  | paren => ')'
  | square => ']'
  | brace => '}'

end Bracket

inductive Quote where
  | double
  | single
  deriving DecidableEq, Repr

namespace Quote

def character : Quote → Char
  | double => '"'
  | single => '\''

def ofCharacter?
    (character : Char) :
    Option Quote :=
  if character = '"' then
    some double
  else if character = '\'' then
    some single
  else
    none

@[simp]
theorem ofCharacter?_character
    (quote : Quote) :
    ofCharacter? quote.character = some quote := by
  cases quote <;> rfl

theorem ofCharacter?_eq_some_iff
    {value : Char}
    {quote : Quote} :
    ofCharacter? value = some quote ↔ value = quote.character := by
  constructor
  · intro found
    unfold ofCharacter? at found
    split at found
    · cases found
      assumption
    · split at found
      · cases found
        assumption
      · cases found
  · rintro rfl
    simp

end Quote

inductive TokenKind where
  | opening (bracket : Bracket)
  | closing (bracket : Bracket)
  /-- A slash that begins no line comment. -/
  | slash
  | asterisk
  | quote (quote : Quote)
  | hash
  | identifier
  /-- The end of the line, with the line comment before it. -/
  | endOfLine
  | other
  deriving DecidableEq, Repr

namespace TokenKind

/-- All kinds, in the order of their numbers. -/
def all : List TokenKind :=
  [ opening .paren, closing .paren,
    opening .square, closing .square,
    opening .brace, closing .brace,
    slash, asterisk,
    quote .double, quote .single,
    hash, identifier, endOfLine, other ]

def number : TokenKind → Nat
  | opening .paren => 0
  | closing .paren => 1
  | opening .square => 2
  | closing .square => 3
  | opening .brace => 4
  | closing .brace => 5
  | slash => 6
  | asterisk => 7
  | quote .double => 8
  | quote .single => 9
  | hash => 10
  | identifier => 11
  | endOfLine => 12
  | other => 13

def ofNumber?
    (number : Int) :
    Option TokenKind :=
  all.find? fun kind => (kind.number : Int) == number

def label : TokenKind → String
  | opening .paren => "L_PAREN"
  | closing .paren => "R_PAREN"
  | opening .square => "L_SQUARE"
  | closing .square => "R_SQUARE"
  | opening .brace => "L_BRACE"
  | closing .brace => "R_BRACE"
  | slash => "SLASH"
  | asterisk => "ASTERISK"
  | quote .double => "STRING_LIT"
  | quote .single => "CHAR_LIT"
  | hash => "HASH"
  | identifier => "IDENTIFIER"
  | endOfLine => "END_OF_LINE"
  | other => "OTHER"

def ofLabel?
    (label : String) :
    Option TokenKind :=
  all.find? fun kind => kind.label == label

def isOpening : TokenKind → Bool
  | opening _ => true
  | _ => false

def isClosing : TokenKind → Bool
  | closing _ => true
  | _ => false

def isLiteralStart : TokenKind → Bool
  | quote _ => true
  | _ => false

/-- The opening bracket that a closing bracket matches. -/
def partner? : TokenKind → Option TokenKind
  | closing bracket => some (opening bracket)
  | _ => none

/-- A kind that matches no opening bracket. -/
structure NotClosing where
  /-- The kind that was asked for its partner. -/
  kind : TokenKind

/-- The words for a kind that matches no opening bracket. -/
def NotClosing.message
    (fault : NotClosing) :
    String :=
  fault.kind.label ++ " is not a closing bracket"

/-- The opening bracket that a kind matches, or the complaint that it is none. -/
def partner
    (kind : TokenKind) :
    Except NotClosing TokenKind :=
  match kind.partner? with
  | some partner => .ok partner
  | none => .error ⟨kind⟩

/-- The words for a number that belongs to no kind. -/
def unknownNumberMessage
    (number : Int) :
    String :=
  toString number ++ " is not a valid TokenKind"

@[simp]
theorem ofNumber?_number
    (kind : TokenKind) :
    ofNumber? kind.number = some kind := by
  rcases kind with (_ | _ | _) | (_ | _ | _) | _ | _ | (_ | _) | _ | _ | _ | _ <;> rfl

/-- The opening brackets are the even numbers up to the last bracket's. -/
theorem isOpening_iff
    (kind : TokenKind) :
    kind.isOpening = true ↔
      kind.number ≤ (closing .brace).number ∧ kind.number % 2 = 0 := by
  rcases kind with (_ | _ | _) | (_ | _ | _) | _ | _ | (_ | _) | _ | _ | _ | _ <;> decide

/-- The closing brackets are the odd numbers up to the last bracket's. -/
theorem isClosing_iff
    (kind : TokenKind) :
    kind.isClosing = true ↔
      kind.number ≤ (closing .brace).number ∧ kind.number % 2 = 1 := by
  rcases kind with (_ | _ | _) | (_ | _ | _) | _ | _ | (_ | _) | _ | _ | _ | _ <;> decide

/-- A closing bracket is numbered one above the bracket that it matches. -/
theorem number_partner
    {kind partner : TokenKind}
    (matching : kind.partner? = some partner) :
    kind.number = partner.number + 1 := by
  rcases kind with _ | (_ | _ | _) | _ | _ | _ | _ | _ | _ | _ <;>
    simp only [partner?, Option.some.injEq, reduceCtorEq] at matching <;>
    subst matching <;>
    rfl

end TokenKind

end Delimit
