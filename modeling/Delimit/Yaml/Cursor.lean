import Delimit.Yaml.Character

/-!
# Positions in a document

A cursor is the text that is still to be read, together with its place: the
number of characters before it, its line and its column.  A byte order mark takes
no column.
-/

namespace Delimit.Yaml

/-- A place in a document, with the text from there on. -/
structure Cursor where
  /-- The text that is still to be read. -/
  rest : List Char
  /-- The number of characters before it. -/
  index : Nat := 0
  /-- The number of line breaks before it. -/
  line : Nat := 0
  /-- The number of columns between the last line break and it. -/
  column : Nat := 0
  deriving Repr

namespace Cursor

def peek?
    (cursor : Cursor) :
    Option Char :=
  cursor.rest.head?

def ahead?
    (cursor : Cursor)
    (distance : Nat) :
    Option Char :=
  cursor.rest[distance]?

def step
    (cursor : Cursor)
    (character : Char)
    (rest : List Char) :
    Cursor :=
  if isBreak character then
    { rest, index := cursor.index + 1, line := cursor.line + 1, column := 0 }
  else if character == '\uFEFF' then
    { cursor with rest, index := cursor.index + 1 }
  else
    { cursor with rest, index := cursor.index + 1, column := cursor.column + 1 }

/-- The cursor a number of characters further on. -/
def advance
    (cursor : Cursor) :
    Nat → Cursor
  | 0 => cursor
  | count + 1 =>
      match cursor.rest with
      | [] => cursor
      | character :: rest => (cursor.step character rest).advance count

/-- The characters of a class that come next, and the cursor after them. -/
def spanWhile
    (cursor : Cursor)
    (test : Char → Bool) :
    List Char × Cursor :=
  let taken := cursor.rest.takeWhile test
  (taken, cursor.advance taken.length)

/-- The cursor after the spaces that come next. -/
def skipSpaces
    (cursor : Cursor) :
    Cursor :=
  (cursor.spanWhile (· == ' ')).2

/-- The cursor at the end of the line. -/
def skipLine
    (cursor : Cursor) :
    Cursor :=
  (cursor.spanWhile fun character => !isBreak character).2

/-- The line break that comes next, and the cursor after it. -/
def lineBreak?
    (cursor : Cursor) :
    Option (Char × Cursor) :=
  match cursor.rest with
  | [] => none
  | character :: rest =>
      if isBreak character then
        some (unifiedBreak character, cursor.step character rest)
      else
        none

/-- The cursor after the line break that comes next, if any. -/
def skipLineBreak
    (cursor : Cursor) :
    Cursor :=
  match cursor.lineBreak? with
  | some (_, cursor) => cursor
  | none => cursor

end Cursor

/-- Whether a text begins with the mark of a document's beginning or end, as a word. -/
def startsWithDocumentMark : List Char → Bool
  | '-' :: '-' :: '-' :: rest => endsWord rest.head?
  | '.' :: '.' :: '.' :: rest => endsWord rest.head?
  | _ => false

end Delimit.Yaml
