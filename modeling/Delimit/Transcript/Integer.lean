import Delimit.Number.Binary64
import Delimit.Text.Ranges
import Delimit.Yaml.Value

/-!
# Whole numbers in records

A field of a record that holds a whole number takes truth values and binary
numbers that are whole as well, and texts that write a whole number.  A text may
have blanks around the number, a sign, zeros in front, lone underscores inside, and
a fraction of nothing but zeros.
-/

namespace Delimit.Transcript.Integer

/-- The reasons for which a value is no whole number. -/
inductive Fault where
  | wrongSort
  | notWritten
  | fractional
  | infinite
  | tooLarge
  deriving DecidableEq, Repr

/-- The blanks that may stand around a number. -/
def surroundingBlanks : Text.Ranges := ⟨[
  (0x9, 0xD), (0x20, 0x20), (0x85, 0x85), (0xA0, 0xA0), (0x1680, 0x1680),
  (0x2000, 0x200A), (0x2028, 0x2029), (0x202F, 0x202F), (0x205F, 0x205F),
  (0x3000, 0x3000)
]⟩

def trim
    (text : List Char) :
    List Char :=
  let front := text.dropWhile surroundingBlanks.contains
  (front.reverse.dropWhile surroundingBlanks.contains).reverse

/-- The greatest number of digits that are read. -/
def longest : Nat := 4300

def numberOf
    (digits : List Char) :
    Nat :=
  digits.foldl (fun total digit => total * 10 + (digit.toNat - '0'.toNat)) 0

/-- The minus sign that a text may begin with. -/
def sign : List Char → List Char
  | '-' :: _ => ['-']
  | _ => []

/-- The digits of a text that may begin with a minus sign. -/
def unsigned : List Char → List Char
  | '-' :: digits => digits
  | digits => digits

/-- Whether digits write a number in its plain form, without a zero in front. -/
def isPlain : List Char → Bool
  | ['0'] => true
  | first :: rest => first.isDigit && first != '0' && rest.all Char.isDigit
  | [] => false

/-- Whether a text begins with more digits than are read, of which the first is no zero. -/
def isTooLong
    (text : List Char) :
    Bool :=
  text.head? != some '0' && longest < (text.takeWhile Char.isDigit).length

/--
The number that a text writes in its plain form.  Digits that are too many are
noticed before what follows them.
-/
def plain
    (text : List Char) :
    Except Fault Int :=
  let digits := unsigned text
  if isTooLong digits then
    .error .tooLarge
  else if !isPlain digits then
    .error .notWritten
  else
    let magnitude : Int := numberOf digits
    .ok (if text.head? == some '-' then -magnitude else magnitude)

/-- A text without the plus sign it may begin with; a minus sign must not follow. -/
def dropPlus? : List Char → Option (List Char)
  | '+' :: rest => if rest.head? == some '-' then none else some rest
  | text => some text

/-- Whether a character is a digit above zero or a minus sign. -/
def endsZeros
    (character : Char) :
    Bool :=
  (character.isDigit && character != '0') || character == '-'

/--
A text behind a zero, without further zeros and underscores; `previous` is the
character before it, which stays in front of a point and at the end.  A minus sign
behind zeros is left as the beginning of the number.
-/
def behindZeros? (previous : Char) : List Char → Option (List Char)
  | [] => some [previous]
  | character :: rest =>
      if character == '0' || character == '_' then
        behindZeros? character rest
      else if endsZeros character then
        some (character :: rest)
      else if character == '.' then
        some (previous :: character :: rest)
      else
        none

/-- A text without the zeros it begins with. -/
def dropZeros? : List Char → Option (List Char)
  | '0' :: rest => behindZeros? '0' rest
  | first :: rest => if endsZeros first then some (first :: rest) else none
  | [] => none

/-- A text without a fraction of nothing but zeros. -/
def dropFraction
    (text : List Char) :
    List Char :=
  match text.dropWhile (· != '.') with
  | _ :: zeros =>
      if !zeros.isEmpty && zeros.all (· == '0') then
        text.takeWhile (· != '.')
      else
        text
  | [] => text

/-- Whether two underscores stand next to each other. -/
def hasDoubleLow : List Char → Bool
  | '_' :: '_' :: _ => true
  | _ :: rest => hasDoubleLow rest
  | [] => false

/-- A text without its underscores, if each stands alone between other characters. -/
def dropLows
    (text : List Char) :
    List Char :=
  if text.head? == some '_' || text.getLast? == some '_' || hasDoubleLow text then
    text
  else
    text.filter (· != '_')

/-- The plain form of a number that is written with what may be left out. -/
def simplify?
    (text : List Char) :
    Option (List Char) := do
  let signed ← dropPlus? (trim text)
  let digits ← dropZeros? (unsigned signed)
  return sign signed ++ dropLows (dropFraction digits)

def ofText
    (text : List Char) :
    Except Fault Int :=
  match plain text with
  | .error .notWritten =>
      match simplify? text with
      | some simple => plain simple
      | none => .error .notWritten
  | result => result

/-- The number that binary numbers have to stay below in magnitude, 2 ^ 63. -/
def reach : Nat := 9223372036854775808

def ofReal
    (value : Number.Binary64) :
    Except Fault Int :=
  if !value.isFinite then
    .error .infinite
  else
    match value.toInt? with
    | none => .error .fractional
    | some whole => if whole.natAbs < reach then .ok whole else .error .tooLarge

end Delimit.Transcript.Integer
