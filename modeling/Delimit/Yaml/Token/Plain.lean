import Delimit.Yaml.Cursor

/-!
# Plain scalars

A plain scalar is written without quotes.  It ends before a colon that ends a
word, before a hash sign that begins one, and in a flow collection before
punctuation.  It may go on over several lines as long as they are indented more
than the collection around it; a single line break stands for a space, and each
further one for itself.
-/

namespace Delimit.Yaml.Plain

/-- Whether a colon with this next character marks a value. -/
def endsKey
    (inFlow : Bool)
    (next : Option Char) :
    Bool :=
  endsWord next || (inFlow && next.any isFlowPunctuation)

/-- The length of the piece of a plain scalar that a text begins with. -/
def pieceLength (inFlow : Bool) : List Char → Nat
  | [] => 0
  | character :: rest =>
      if isSeparator character then
        0
      else if character == ':' && endsKey inFlow rest.head? then
        0
      else if inFlow && (character == '?' || isFlowPunctuation character) then
        0
      else
        pieceLength inFlow rest + 1

/--
The line breaks among the spaces and line breaks that come next, unless the mark
of a document stands at the beginning of one of the lines, together with the
number of characters that were passed.
-/
def blankLines : List Char → Option (List Char) × Nat
  | [] => (some [], 0)
  | character :: rest =>
      if character == ' ' then
        let (breaks, length) := blankLines rest
        (breaks, length + 1)
      else if isBreak character then
        if startsWithDocumentMark rest then
          (none, 1)
        else
          let (breaks, length) := blankLines rest
          (breaks.map (unifiedBreak character :: ·), length + 1)
      else
        (some [], 0)

/-- What stands between two pieces of a plain scalar. -/
structure Gap where
  /-- The text that the gap stands for; nothing if the scalar ends with it. -/
  text : List Char
  cursor : Cursor
  /-- Whether the gap holds a line break. -/
  broken : Bool

/-- The text that a line break and the breaks after it stand for. -/
def foldedBreaks
    (first : Char)
    (later : List Char) :
    List Char :=
  if first != '\n' then
    first :: later
  else if later.isEmpty then
    [' ']
  else
    later

def gap
    (cursor : Cursor) :
    Gap :=
  let (spaces, cursor) := cursor.spanWhile (· == ' ')
  match cursor.lineBreak? with
  | none => ⟨spaces, cursor, false⟩
  | some (first, cursor) =>
      if startsWithDocumentMark cursor.rest then
        ⟨[], cursor, true⟩
      else
        match blankLines cursor.rest with
        | (none, length) => ⟨[], cursor.advance length, true⟩
        | (some later, length) =>
            ⟨foldedBreaks first later, cursor.advance length, true⟩

/-- A plain scalar that was read. -/
structure Reading where
  text : List Char
  cursor : Cursor
  /-- Whether the last gap held a line break, so that a key may follow. -/
  broken : Bool

/-- Reads pieces and the gaps between them, at most as many as the fuel allows. -/
def pieces
    (inFlow : Bool)
    (indent : Int) :
    Nat → Reading → Reading
  | 0, reading => reading
  | fuel + 1, reading =>
      let length := pieceLength inFlow reading.cursor.rest
      if reading.cursor.peek? == some '#' || length == 0 then
        { reading with text := [] }
      else
        let piece := reading.cursor.rest.take length
        let gap := gap (reading.cursor.advance length)
        let goesOn :=
          !gap.text.isEmpty && gap.cursor.peek? != some '#' &&
            (inFlow || indent ≤ gap.cursor.column)
        if goesOn then
          let later := pieces inFlow indent fuel ⟨gap.text, gap.cursor, gap.broken⟩
          { later with text := reading.text ++ piece ++ later.text }
        else
          ⟨reading.text ++ piece, gap.cursor, gap.broken⟩

/-- The plain scalar that a cursor stands before. -/
def read
    (inFlow : Bool)
    (indent : Int)
    (cursor : Cursor) :
    Reading :=
  pieces inFlow indent (cursor.rest.length + 1) ⟨[], cursor, false⟩

end Delimit.Yaml.Plain
