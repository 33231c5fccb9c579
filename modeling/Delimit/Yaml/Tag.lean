import Delimit.Yaml.Character
import Delimit.Yaml.Node
import Delimit.Yaml.Timestamp

/-!
# Tags

The tag of a node says what sort of value it is.  A scalar that is written plainly
and carries no tag gets one from its text, by the rules of version 1.1 of the
format: yes, no, on and off are truth values besides true and false, numbers may
have underscores and may be written in base 2, 8, 16 and 60, and a number with a
point is no whole number.
-/

namespace Delimit.Yaml

inductive Tag where
  | null
  | bool
  | int
  | real
  | binary
  | timestamp
  /-- A sequence of single entries, in order and without repetition. -/
  | orderedMap
  | pairs
  | set
  | string
  | sequence
  | mapping
  /-- The key that merges another mapping in. -/
  | merge
  | defaultValue
  /-- A tag that has no meaning here. -/
  | unknown
  deriving DecidableEq, Repr

namespace Tag

/-- The names of the tags of the format. -/
def names : List (List Char × Tag) :=
  [ ("null".toList, null),
    ("bool".toList, bool),
    ("int".toList, int),
    ("float".toList, real),
    ("binary".toList, binary),
    ("timestamp".toList, timestamp),
    ("omap".toList, orderedMap),
    ("pairs".toList, pairs),
    ("set".toList, set),
    ("str".toList, string),
    ("seq".toList, sequence),
    ("map".toList, mapping),
    ("merge".toList, merge),
    ("value".toList, defaultValue) ]

def ofFullName
    (name : List Char) :
    Tag :=
  if Node.commonLead.isPrefixOf name then
    (names.lookup (name.drop Node.commonLead.length)).getD unknown
  else
    unknown

/-! ## The tags of plain scalars -/

/-- The words for truth, as they stand in plain scalars. -/
def trueWords : List (List Char) :=
  ["yes", "Yes", "YES", "true", "True", "TRUE", "on", "On", "ON"].map String.toList

/-- The words for falsehood, as they stand in plain scalars. -/
def falseWords : List (List Char) :=
  ["no", "No", "NO", "false", "False", "FALSE", "off", "Off", "OFF"].map String.toList

def nullWords : List (List Char) :=
  ["", "~", "null", "Null", "NULL"].map String.toList

/-- Whether a character is a decimal digit or an underscore. -/
def isDigitOrLow
    (character : Char) :
    Bool :=
  character.isDigit || character == '_'

/-- A text without the sign it may begin with. -/
def dropSign : List Char → List Char
  | '+' :: rest => rest
  | '-' :: rest => rest
  | text => text

def colonPieces
    (text : List Char) :
    List (List Char) :=
  text.splitOn ':'

/-- Whether a text is a place of base 60: at most two digits below 60. -/
def isSixtieth : List Char → Bool
  | [digit] => digit.isDigit
  | [tens, digit] => '0' ≤ tens && tens ≤ '5' && digit.isDigit
  | _ => false

/-- Whether a text is a number in base 60 with a first place as given. -/
def isBaseSixty
    (isFirst : List Char → Bool)
    (text : List Char) :
    Bool :=
  match colonPieces text with
  | first :: next :: later => isFirst first && (next :: later).all isSixtieth
  | _ => false

/-- Whether a text begins with a digit and goes on with digits and underscores. -/
def isDigits : List Char → Bool
  | first :: rest => first.isDigit && rest.all isDigitOrLow
  | [] => false

/-- Whether a text begins with a digit above zero and goes on with digits and underscores. -/
def isPositiveDigits : List Char → Bool
  | first :: rest => first.isDigit && first != '0' && rest.all isDigitOrLow
  | [] => false

/-- Whether a text is not empty and has only characters of a class. -/
def isRun
    (test : Char → Bool)
    (text : List Char) :
    Bool :=
  !text.isEmpty && text.all test

/-- Whether a text is written as a whole number. -/
def isInt
    (text : List Char) :
    Bool :=
  match dropSign text with
  | '0' :: 'b' :: digits =>
      isRun (fun digit => digit == '0' || digit == '1' || digit == '_') digits
  | '0' :: 'x' :: digits => isRun (fun digit => isHexDigit digit || digit == '_') digits
  | '0' :: digits =>
      digits.all fun digit => ('0' ≤ digit && digit ≤ '7') || digit == '_'
  | digits => isPositiveDigits digits || isBaseSixty isPositiveDigits digits

/-- Whether a text is the exponent of a binary number, or nothing. -/
def isExponent : List Char → Bool
  | [] => true
  | mark :: sign :: digits =>
      (mark == 'e' || mark == 'E') && (sign == '+' || sign == '-') &&
        isRun Char.isDigit digits
  | _ => false

/-- Whether a text is digits and underscores before the exponent of a binary number. -/
def isFraction
    (text : List Char) :
    Bool :=
  isExponent (text.dropWhile isDigitOrLow)

/-- Whether a text is written as a binary number. -/
def isReal
    (text : List Char) :
    Bool :=
  let unsigned := dropSign text
  let whole := unsigned.takeWhile (· != '.')
  match unsigned.dropWhile (· != '.') with
  | [] => false
  | _ :: fraction =>
      if whole.isEmpty then
        ["inf", "Inf", "INF"].any (·.toList == fraction) ||
          (unsigned == text &&
            (["nan", "NaN", "NAN"].any (·.toList == fraction) ||
              (fraction.head?.any Char.isDigit && isFraction fraction)))
      else
        (isDigits whole && isFraction fraction) ||
          (isBaseSixty isDigits whole && fraction.all isDigitOrLow)

/-- The tag of a plain scalar without a tag.  A line feed at its end does not count. -/
def ofPlain
    (written : List Char) :
    Tag :=
  let text :=
    if written.length != 1 && written.getLast? == some '\n' then
      written.dropLast
    else
      written
  if trueWords.contains text || falseWords.contains text then
    bool
  else if isReal text then
    real
  else if isInt text then
    int
  else if text == "<<".toList then
    merge
  else if nullWords.contains text then
    null
  else if (Timestamp.ofText? text).any Timestamp.isImplicit then
    timestamp
  else if text == "=".toList then
    defaultValue
  else if text == "!".toList || text == "&".toList || text == "*".toList then
    unknown
  else
    string

def ofScalar
    (properties : Properties)
    (plain : Bool)
    (written : List Char) :
    Tag :=
  match properties.tag? with
  | some name => ofFullName name
  | none => if plain then ofPlain written else string

end Tag

end Delimit.Yaml
