import Delimit.Yaml.Tag

/-!
# Styles of written texts

A text is written plainly if it reads back as itself without quotes, between
single quotes if it needs no escapes, and between double quotes otherwise.  What
decides are the characters that mean something where they stand, the characters
that need an escape, and how spaces and line breaks meet.
-/

namespace Delimit.Yaml

inductive Style where
  | plain
  | single
  | double
  deriving DecidableEq, Repr

namespace Style

/-- The characters that mean something at the beginning of a plain scalar. -/
def leadingIndicators : List Char :=
  "#,[]\x7b\x7d&*!|>'\"%@\x60".toList

/-- Whether a text begins with the three characters of a document mark. -/
def startsLikeDocumentMark
    (text : List Char) :
    Bool :=
  ['-', '-', '-'].isPrefixOf text || ['.', '.', '.'].isPrefixOf text

/-- Whether the first character of a text, before another one, forbids the plain style. -/
def leadsBadly
    (character : Char)
    (next : Option Char) :
    Bool :=
  leadingIndicators.contains character ||
    ((character == '?' || character == ':' || character == '-') && endsWord next)

/-- Whether a character inside a text, between two others, forbids the plain style. -/
def interrupts
    (previous character : Char)
    (next : Option Char) :
    Bool :=
  (character == ':' && endsWord next) || (character == '#' && isSeparator previous)

/-- Whether some character after the first one forbids the plain style. -/
def interruptsAfter : Char → List Char → Bool
  | _, [] => false
  | previous, character :: rest =>
      interrupts previous character rest.head? || interruptsAfter character rest

/-- Whether a text has characters that forbid the plain style where they stand. -/
def hasIndicators : List Char → Bool
  | [] => false
  | first :: rest =>
      startsLikeDocumentMark (first :: rest) || leadsBadly first rest.head? ||
        interruptsAfter first rest

/-- The characters that can be written without an escape, apart from line feeds. -/
def writableRanges : Text.Ranges := ⟨[
  (0x20, 0x7E), (0x85, 0x85), (0xA0, 0xD7FF), (0xE000, 0xFEFE), (0xFF00, 0xFFFD),
  (0x10000, 0x10FFFE)
]⟩

/-- Whether a character can be written without an escape. -/
def isWritable
    (character : Char) :
    Bool :=
  character == '\n' || writableRanges.contains character

/-- Whether a text has two neighbours of the given classes. -/
def hasNeighbours
    (first second : Char → Bool) :
    List Char → Bool
  | [] => false
  | character :: rest =>
      (first character && rest.head?.any second) || hasNeighbours first second rest

def isSpace
    (character : Char) :
    Bool :=
  character == ' '

/-- Whether a text can be written between single quotes. -/
def allowsSingle
    (text : List Char) :
    Bool :=
  text.all isWritable && !hasNeighbours isSpace isBreak text &&
    !hasNeighbours isBreak isSpace text

/-- Whether a text begins or ends with a character of a class. -/
def hasAtEnd
    (test : Char → Bool)
    (text : List Char) :
    Bool :=
  text.head?.any test || text.getLast?.any test

/-- Whether a text can be written without quotes and reads back as a text. -/
def allowsPlain
    (text : List Char) :
    Bool :=
  allowsSingle text && !text.any isBreak && !hasAtEnd isSpace text &&
    !hasIndicators text && Tag.ofPlain text == .string

def ofText
    (text : List Char) :
    Style :=
  if allowsPlain text then
    .plain
  else if allowsSingle text then
    .single
  else
    .double

end Style

end Delimit.Yaml
