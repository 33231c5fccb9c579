import Delimit.Text.Ranges

/-!
# Character classes of the document format

The classes that decide where tokens begin and end.  The end of the text counts
as the end of a line and of a word, so the tests that look one character ahead
take an optional character.  Texts are read with their line terminators unified,
so a carriage return has no place here.
-/

namespace Delimit.Yaml

def printableRanges : Text.Ranges := ⟨[
  (0x9, 0xA), (0xD, 0xD), (0x20, 0x7E), (0x85, 0x85), (0xA0, 0xD7FF),
  (0xE000, 0xFFFD), (0x10000, 0x10FFFF)
]⟩

def isPrintable
    (character : Char) :
    Bool :=
  printableRanges.contains character

def isBreak
    (character : Char) :
    Bool :=
  character == '\n' || character == '\u0085' ||
    character == '\u2028' || character == '\u2029'

/-- What a line break stands for: the separators keep their sort, all others are line feeds. -/
def unifiedBreak
    (character : Char) :
    Char :=
  if character == '\u2028' || character == '\u2029' then character else '\n'

/-- Whether a character is a space or a tab. -/
def isSpaceOrTab
    (character : Char) :
    Bool :=
  character == ' ' || character == '\t'

def isSeparator
    (character : Char) :
    Bool :=
  isSpaceOrTab character || isBreak character

/-- Whether a word ends before what comes next. -/
def endsWord : Option Char → Bool
  | none => true
  | some character => isSeparator character

/-- Whether a line ends before what comes next. -/
def endsLine : Option Char → Bool
  | none => true
  | some character => isBreak character

/-- Whether a line or a part of a header ends before what comes next; tabs do not count. -/
def endsField
    (next : Option Char) :
    Bool :=
  next == some ' ' || endsLine next

/-- Whether a character is an ASCII letter or digit, a hyphen or an underscore. -/
def isNamePart
    (character : Char) :
    Bool :=
  character.isAlphanum || character == '-' || character == '_'

/-- Whether a character may stand in the address that a tag is written with. -/
def isAddressPart
    (character : Char) :
    Bool :=
  character.isAlphanum ||
    "-;/?:@&=+$,_.!~*'()[]%".toList.contains character

def isHexDigit
    (character : Char) :
    Bool :=
  character.isDigit ||
    ('a' ≤ character && character ≤ 'f') ||
    ('A' ≤ character && character ≤ 'F')

def hexDigitValue
    (character : Char) :
    Nat :=
  if character.isDigit then
    character.toNat - '0'.toNat
  else
    character.toLower.toNat - 'a'.toNat + 10

def hexValue
    (digits : List Char) :
    Nat :=
  digits.foldl (fun total digit => total * 16 + hexDigitValue digit) 0

/-- Whether a character is punctuation of flow collections. -/
def isFlowPunctuation
    (character : Char) :
    Bool :=
  ",[]\x7b\x7d".toList.contains character

/-- Whether a character has a meaning of its own at the beginning of a token. -/
def isIndicator
    (character : Char) :
    Bool :=
  "-?:,[]\x7b\x7d#&*!|>'\"%@\x60".toList.contains character

end Delimit.Yaml
