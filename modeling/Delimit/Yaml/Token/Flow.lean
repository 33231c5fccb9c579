import Delimit.Yaml.Cursor
import Delimit.Yaml.Fault

/-!
# Quoted scalars

A quoted scalar runs to its closing quote, over several lines if need be.  Blanks
at the end and at the beginning of its lines are dropped, a single line break
stands for a space, and each further one for itself.  Between single quotes a
quote is written twice and there are no escapes; between double quotes a backslash
begins an escape, and before a line break it removes the break.
-/

namespace Delimit.Yaml.Flow

/-- The two sorts of quoted scalar. -/
inductive Style where
  | single
  | double
  deriving DecidableEq, Repr

def Style.quote : Style → Char
  | .single => '\''
  | .double => '"'

/-- The character that an escape of one letter stands for. -/
def namedEscape? : Char → Option Char
  | '0' => some '\x00'
  | 'a' => some '\x07'
  | 'b' => some '\x08'
  | 't' => some '\t'
  | '\t' => some '\t'
  | 'n' => some '\n'
  | 'v' => some '\x0B'
  | 'f' => some '\x0C'
  | 'r' => some '\r'
  | 'e' => some '\x1B'
  | ' ' => some ' '
  | '"' => some '"'
  | '\\' => some '\\'
  | '/' => some '/'
  | 'N' => some '\u0085'
  | '_' => some '\u00A0'
  | 'L' => some '\u2028'
  | 'P' => some '\u2029'
  | _ => none

/-- The number of hexadecimal digits after an escape of this letter. -/
def codeLength? : Char → Option Nat
  | 'x' => some 2
  | 'u' => some 4
  | 'U' => some 8
  | _ => none

/-- The code that hexadecimal digits write at the beginning of a text. -/
def code?
    (length : Nat)
    (text : List Char) :
    Option Nat :=
  let digits := text.take length
  if digits.length == length && digits.all isHexDigit then
    some (hexValue digits)
  else
    none

/-- Whether a code is the first half of a pair that writes one character. -/
def isHighHalf
    (code : Nat) :
    Bool :=
  0xD800 ≤ code && code < 0xDC00

/-- Whether a code is the second half of a pair that writes one character. -/
def isLowHalf
    (code : Nat) :
    Bool :=
  0xDC00 ≤ code && code < 0xE000

/-- The second half of a pair that a text begins with, when it is an escape of the same letter. -/
def lowHalf?
    (letter : Char)
    (length : Nat)
    (text : List Char) :
    Option Nat :=
  match text with
  | '\\' :: next :: rest =>
      if next = letter then
        (code? length rest).filter isLowHalf
      else
        none
  | _ => none

/--
The character of a numbered escape, with the number of characters that its digits
take.  It is assumed that no text holds the halves of a pair, which are no characters:
two escapes that write the halves of a pair are read as the one character of the pair,
and a half on its own as U+FFFD, where a reader whose texts may hold halves keeps them.
-/
def numberedEscape
    (letter : Char)
    (length : Nat)
    (text : List Char) :
    Except Fault (Char × Nat) :=
  match code? length text with
  | none => .error .badToken
  | some code =>
      if 0x80000000 ≤ code then
        .error (.breakdown .overflow)
      else if 0x10FFFF < code then
        .error (.breakdown .badNumber)
      else if isHighHalf code then
        match lowHalf? letter length (text.drop length) with
        | some low =>
            .ok
              ( Char.ofNat (0x10000 + (code - 0xD800) * 0x400 + (low - 0xDC00)),
                length + 2 + length )
        | none => .ok ('\uFFFD', length)
      else if isLowHalf code then
        .ok ('\uFFFD', length)
      else
        .ok (Char.ofNat code, length)

/--
The line breaks among the blanks and line breaks that come next, with the number
of characters that were passed.  The mark of a document at the beginning of a line
is a fault.
-/
def blankLines (lineStart : Bool) (text : List Char) : Except Fault (List Char × Nat) :=
  if lineStart && startsWithDocumentMark text then
    .error .badToken
  else
    match text with
    | [] => .ok ([], 0)
    | character :: rest =>
        if isSpaceOrTab character then do
          let (breaks, length) ← blankLines false rest
          return (breaks, length + 1)
        else if isBreak character then do
          let (breaks, length) ← blankLines true rest
          return (unifiedBreak character :: breaks, length + 1)
        else
          .ok ([], 0)

/-- The text that the blanks and line breaks before a cursor stand for. -/
def gap
    (cursor : Cursor) :
    Except Fault (List Char × Cursor) :=
  let (blanks, cursor) := cursor.spanWhile isSpaceOrTab
  match cursor.rest with
  | [] => .error .badToken
  | _ =>
      match cursor.lineBreak? with
      | none => .ok (blanks, cursor)
      | some (first, cursor) => do
          let (later, length) ← blankLines true cursor.rest
          let text :=
            if first != '\n' then
              first :: later
            else if later.isEmpty then
              [' ']
            else
              later
          return (text, cursor.advance length)

/-- The text of the escape after a backslash, and the cursor after it. -/
def escape
    (cursor : Cursor) :
    Except Fault (List Char × Cursor) :=
  match cursor.rest with
  | [] => .error .badToken
  | letter :: rest =>
      match namedEscape? letter with
      | some character => .ok ([character], cursor.advance 1)
      | none =>
          match codeLength? letter with
          | some length => do
              let (character, taken) ← numberedEscape letter length rest
              return ([character], cursor.advance (1 + taken))
          | none =>
              if isBreak letter then do
                let cursor := cursor.advance 1
                let (breaks, length) ← blankLines true cursor.rest
                return (breaks, cursor.advance length)
              else
                .error .badToken

/-- The piece that comes next, and the cursor after it; no piece at the closing quote. -/
def piece
    (style : Style)
    (cursor : Cursor) :
    Except Fault (Option (List Char) × Cursor) :=
  match cursor.rest with
  | [] => .error .badToken
  | character :: _ =>
      if isSeparator character then do
        let (text, cursor) ← gap cursor
        return (some text, cursor)
      else if style = .single && character == '\'' then
        if cursor.ahead? 1 == some '\'' then
          .ok (some ['\''], cursor.advance 2)
        else
          .ok (none, cursor.advance 1)
      else if style = .double && character == '"' then
        .ok (none, cursor.advance 1)
      else if style = .double && character == '\\' then do
        let (text, cursor) ← escape (cursor.advance 1)
        return (some text, cursor)
      else
        .ok (some [character], cursor.advance 1)

/-- Reads pieces up to the closing quote, at most as many as the fuel allows. -/
def pieces
    (style : Style) :
    Nat → Cursor → Except Fault (List Char × Cursor)
  | 0, _ => .error .badToken
  | fuel + 1, cursor => do
      let (text?, cursor) ← piece style cursor
      match text? with
      | none => return ([], cursor)
      | some text =>
          let (later, cursor) ← pieces style fuel cursor
          return (text ++ later, cursor)

/-- The quoted scalar whose opening quote a cursor stands before. -/
def read
    (style : Style)
    (cursor : Cursor) :
    Except Fault (List Char × Cursor) :=
  let cursor := cursor.advance 1
  pieces style (cursor.rest.length + 1) cursor

end Delimit.Yaml.Flow
