import Delimit.Yaml.Cursor
import Delimit.Yaml.Fault

/-!
# Block scalars

A block scalar is the indented text below its header.  The header says whether
single line breaks are kept or stand for spaces, what becomes of the line breaks
at the end, and how far the text is indented, unless its first line shows that.
-/

namespace Delimit.Yaml.Block

/-- What becomes of the line breaks at the end of a block scalar. -/
inductive Chomping where
  | clip
  | strip
  | keep
  deriving DecidableEq, Repr

/-- The header of a block scalar. -/
structure Header where
  /-- What becomes of the line breaks at the end. -/
  chomping : Chomping := .clip
  /-- The indentation relative to the collection around it. -/
  increment? : Option Nat := none
  deriving DecidableEq, Repr

def chomping? : Char → Option Chomping
  | '+' => some .keep
  | '-' => some .strip
  | _ => none

/-- The indentation that a character asks for; an indentation of zero is a fault. -/
def increment?
    (next : Option Char) :
    Except Fault (Option Nat) :=
  match next with
  | some character =>
      if character == '0' then
        .error .badToken
      else if character.isDigit then
        .ok (some (character.toNat - '0'.toNat))
      else
        .ok none
  | none => .ok none

/-- The header that a cursor stands before, its two parts in either order. -/
def header
    (cursor : Cursor) :
    Except Fault (Header × Cursor) :=
  match cursor.peek?.bind chomping? with
  | some chomping => do
      let cursor := cursor.advance 1
      let increment? ← increment? cursor.peek?
      return (⟨chomping, increment?⟩, cursor.advance (if increment?.isSome then 1 else 0))
  | none => do
      match ← increment? cursor.peek? with
      | none => return ({}, cursor)
      | some increment =>
          let cursor := cursor.advance 1
          match cursor.peek?.bind chomping? with
          | some chomping => return (⟨chomping, some increment⟩, cursor.advance 1)
          | none => return ({ increment? := some increment }, cursor)

/-- The cursor after the blanks, the comment and the line break that end a header. -/
def endOfHeader
    (cursor : Cursor) :
    Except Fault Cursor :=
  let cursor := cursor.skipSpaces
  let cursor := if cursor.peek? == some '#' then cursor.skipLine else cursor
  if endsLine cursor.peek? then
    .ok cursor.skipLineBreak
  else
    .error .badToken

/--
The line breaks of the blank lines that come next, the widest indentation among
them, and the number of characters that were passed.
-/
def leadingLines (column widest : Nat) : List Char → List Char × Nat × Nat
  | [] => ([], widest, 0)
  | character :: rest =>
      if character == ' ' then
        let (breaks, widest, length) :=
          leadingLines (column + 1) (max widest (column + 1)) rest
        (breaks, widest, length + 1)
      else if isBreak character then
        let (breaks, widest, length) := leadingLines 0 widest rest
        (unifiedBreak character :: breaks, widest, length + 1)
      else
        ([], widest, 0)

/-- The line breaks of the blank lines up to an indentation, and the number of characters passed. -/
def indentedBreaks (indent column : Nat) : List Char → List Char × Nat
  | [] => ([], 0)
  | character :: rest =>
      if character == ' ' && column < indent then
        let (breaks, length) := indentedBreaks indent (column + 1) rest
        (breaks, length + 1)
      else if isBreak character then
        let (breaks, length) := indentedBreaks indent 0 rest
        (unifiedBreak character :: breaks, length + 1)
      else
        ([], 0)

/-- Moves a cursor over the blank lines up to an indentation. -/
def skipBlankLines
    (indent : Nat)
    (cursor : Cursor) :
    List Char × Cursor :=
  let (breaks, length) := indentedBreaks indent cursor.column cursor.rest
  (breaks, cursor.advance length)

/-- The content of a block scalar, before its end is chomped. -/
structure Content where
  text : List Char
  /-- The line break of the last line. -/
  lastBreak : List Char
  /-- The line breaks of the blank lines after it. -/
  laterBreaks : List Char
  cursor : Cursor

/-- The text that joins a line to the next one. -/
def joint
    (folded : Bool)
    (lineBreak breaks : List Char)
    (line : List Char)
    (next : Option Char) :
    List Char :=
  let even := !line.head?.any isSpaceOrTab && !next.any isSpaceOrTab
  if folded && lineBreak == ['\n'] && even then
    if breaks.isEmpty then [' '] else []
  else
    lineBreak

/-- Reads lines of an indentation, at most as many as the fuel allows. -/
def lines
    (folded : Bool)
    (indent : Nat) :
    Nat → List Char → List Char → Cursor → Content
  | 0, lastBreak, breaks, cursor => ⟨[], lastBreak, breaks, cursor⟩
  | fuel + 1, lastBreak, breaks, cursor =>
      if cursor.column == indent && !cursor.rest.isEmpty then
        let (line, cursor) := cursor.spanWhile fun character => !isBreak character
        let (lineBreak, cursor) :=
          match cursor.lineBreak? with
          | some (character, cursor) => ([character], cursor)
          | none => ([], cursor)
        let (later, cursor) := skipBlankLines indent cursor
        if cursor.column == indent && !cursor.rest.isEmpty then
          let content := lines folded indent fuel lineBreak later cursor
          { content with
            text :=
              breaks ++ line ++ joint folded lineBreak later line cursor.peek? ++
                content.text }
        else
          ⟨breaks ++ line, lineBreak, later, cursor⟩
      else
        ⟨[], lastBreak, breaks, cursor⟩

/-- The text of a content whose end is chomped. -/
def Content.chomp
    (content : Content) : Chomping → List Char
  | .strip => content.text
  | .clip => content.text ++ content.lastBreak
  | .keep => content.text ++ content.lastBreak ++ content.laterBreaks

/--
The block scalar whose style mark a cursor stands before, inside a collection of
the given indentation.
-/
def read
    (folded : Bool)
    (outer : Int)
    (cursor : Cursor) :
    Except Fault (List Char × Cursor) := do
  let (header, cursor) ← header (cursor.advance 1)
  if !endsField cursor.peek? then
    throw .badToken
  let cursor ← endOfHeader cursor
  let least := (max (outer + 1) 1).toNat
  let (indent, breaks, cursor) :=
    match header.increment? with
    | none =>
        let (breaks, widest, length) := leadingLines cursor.column 0 cursor.rest
        (max least widest, breaks, cursor.advance length)
    | some increment =>
        let indent := least + increment - 1
        let (breaks, cursor) := skipBlankLines indent cursor
        (indent, breaks, cursor)
  let content := lines folded indent (cursor.rest.length + 1) [] breaks cursor
  return (content.chomp header.chomping, content.cursor)

end Delimit.Yaml.Block
