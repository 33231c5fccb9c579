import Delimit.Text.Digit
import Delimit.Text.Utf8
import Delimit.Yaml.Cursor
import Delimit.Yaml.Token

/-!
# Names, tags and directives

The tokens before a node name it or give it a tag, and the directives before a
document say how tags are abbreviated.  A tag is written in full between angle
brackets, with a handle and a suffix, or as a lone exclamation mark; characters
outside its alphabet are written as the bytes of their UTF-8 form.
-/

namespace Delimit.Yaml.Property

/-- Whether what comes next may stand directly behind a name. -/
def endsName
    (next : Option Char) :
    Bool :=
  endsWord next || next.any "?:,]\x7d%@\x60".toList.contains

/-- The name of an anchor or an alias whose mark a cursor stands before. -/
def name
    (cursor : Cursor) :
    Except Fault (List Char × Cursor) :=
  let (name, cursor) := (cursor.advance 1).spanWhile isNamePart
  if !name.isEmpty && endsName cursor.peek? then
    .ok (name, cursor)
  else
    .error .badToken

/-- The bytes that the escapes at the beginning of a text write, with the text after them. -/
def escapedBytes : List Char → Except Fault (List UInt8 × List Char)
  | '%' :: high :: low :: rest =>
      if isHexDigit high && isHexDigit low then do
        let (bytes, rest) ← escapedBytes rest
        return (UInt8.ofNat (hexValue [high, low]) :: bytes, rest)
      else
        .error .badToken
  | '%' :: _ => .error .badToken
  | rest => .ok ([], rest)

/--
The text that an address stands for, once the escapes in it are read.  Each run of
escapes has to be well-formed UTF-8 by itself.
-/
def unescape : Nat → List Char → Except Fault (List Char)
  | 0, _ => .ok []
  | _, [] => .ok []
  | fuel + 1, character :: rest =>
      if character == '%' then do
        let (bytes, rest) ← escapedBytes (character :: rest)
        match Text.decodeUtf8? bytes with
        | none => throw .badToken
        | some text => return text ++ (← unescape fuel rest)
      else do
        return character :: (← unescape fuel rest)

def address
    (cursor : Cursor) :
    Except Fault (List Char × Cursor) := do
  let (written, cursor) := cursor.spanWhile isAddressPart
  if written.isEmpty then
    throw .badToken
  return (← unescape written.length written, cursor)

/-- The handle that a cursor stands before: a mark, a name between two marks, or two marks. -/
def handle
    (cursor : Cursor) :
    Except Fault (List Char × Cursor) :=
  if cursor.peek? != some '!' then
    .error .badToken
  else if cursor.ahead? 1 == some ' ' then
    .ok (['!'], cursor.advance 1)
  else
    let (name, after) := (cursor.advance 1).spanWhile isNamePart
    if after.peek? == some '!' then
      .ok ('!' :: name ++ ['!'], after.advance 1)
    else
      .error .badToken

/-- Whether a second mark follows in the word that a text begins with, so that it has a handle. -/
def hasHandle
    (text : List Char) :
    Bool :=
  (text.takeWhile fun character => !(character == ' ' || isBreak character)).contains '!'

def tag
    (cursor : Cursor) :
    Except Fault (TagName × Cursor) := do
  let (name, cursor) ←
    if cursor.ahead? 1 == some '<' then do
      let (suffix, cursor) ← address (cursor.advance 2)
      if cursor.peek? != some '>' then
        throw .badToken
      pure (TagName.mk none suffix, cursor.advance 1)
    else if endsWord (cursor.ahead? 1) then
      pure (TagName.mk none ['!'], cursor.advance 1)
    else if hasHandle cursor.rest.tail then do
      let (handle, cursor) ← handle cursor
      let (suffix, cursor) ← address cursor
      pure (TagName.mk (some handle) suffix, cursor)
    else do
      let (suffix, cursor) ← address (cursor.advance 1)
      pure (TagName.mk (some ['!']) suffix, cursor)
  if endsField cursor.peek? then
    return (name, cursor)
  else
    throw .badToken

def number
    (cursor : Cursor) :
    Except Fault (Nat × Cursor) :=
  let (digits, cursor) := cursor.spanWhile Char.isDigit
  if digits.isEmpty then
    .error .badToken
  else if Text.longestNumber < digits.length then
    .error (.breakdown .badNumber)
  else
    .ok
      ( digits.foldl (fun total digit => total * 10 + (digit.toNat - '0'.toNat)) 0,
        cursor )

def version
    (cursor : Cursor) :
    Except Fault (Directive × Cursor) := do
  let (major, cursor) ← number cursor.skipSpaces
  if cursor.peek? != some '.' then
    throw .badToken
  let (_, cursor) ← number (cursor.advance 1)
  if endsField cursor.peek? then
    return (.version major, cursor)
  else
    throw .badToken

def abbreviation
    (cursor : Cursor) :
    Except Fault (Directive × Cursor) := do
  let (name, cursor) ← handle cursor.skipSpaces
  if cursor.peek? != some ' ' then
    throw .badToken
  let (lead, cursor) ← address cursor.skipSpaces
  if endsField cursor.peek? then
    return (.handle name lead, cursor)
  else
    throw .badToken

/-- The directive whose mark a cursor stands before. -/
def directive
    (cursor : Cursor) :
    Except Fault (Directive × Cursor) := do
  let (name, cursor) := (cursor.advance 1).spanWhile isNamePart
  if name.isEmpty || !endsField cursor.peek? then
    throw .badToken
  let (directive, cursor) ←
    if name == "YAML".toList then
      version cursor
    else if name == "TAG".toList then
      abbreviation cursor
    else
      pure (.reserved, cursor.skipLine)
  let cursor := cursor.skipSpaces
  let cursor := if cursor.peek? == some '#' then cursor.skipLine else cursor
  if endsLine cursor.peek? then
    return (directive, cursor.skipLineBreak)
  else
    throw .badToken

end Delimit.Yaml.Property
