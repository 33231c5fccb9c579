import Delimit.Yaml.Token.Block
import Delimit.Yaml.Token.Flow
import Delimit.Yaml.Token.Plain
import Delimit.Yaml.Token.Property

/-!
# Reading tokens

Tokens are read from left to right.  Only the colon behind a key shows that it was
a key, so for every flow level the reader remembers where a key may have begun;
when its colon comes, the mark of the key, and in block context the beginning of
its mapping, are put in there.  Such a key has to end on the line it began on and
within 1024 characters.  In block context, indentation opens and closes
collections.

The tokens of a text with a fault are those that can be given out before the fault is
met: a token that may be a key waits for what follows it.
-/

namespace Delimit.Yaml

/-- A place at which a key may have begun. -/
structure KeyPlace where
  /-- The number of tokens before it. -/
  position : Nat
  /-- Whether nothing but a key can stand there. -/
  required : Bool
  cursor : Cursor

/-- Where the reading of tokens stands. -/
structure Reader where
  /-- The text that is still to be read. -/
  cursor : Cursor
  /-- The tokens so far, the last one first. -/
  tokens : List Token := []
  /-- The number of flow collections that are open. -/
  flowLevel : Nat := 0
  /-- The indentation of the innermost block collection. -/
  indent : Int := -1
  /-- The indentations of the collections around it. -/
  outerIndents : List Int := []
  /-- Whether a key may begin here. -/
  allowsKey : Bool := true
  /-- The possible keys, each with its flow level, the innermost first. -/
  keys : List (Nat × KeyPlace) := []

namespace Reader

/-- The longest distance between the beginning of a key and its colon. -/
def keyReach : Nat := 1024

/-- Whether the reader stands in a flow collection. -/
def inFlow
    (reader : Reader) :
    Bool :=
  reader.flowLevel != 0

def emit
    (reader : Reader)
    (token : Token) :
    Reader :=
  { reader with tokens := token :: reader.tokens }

/-- Puts tokens in where a given number of tokens stand before. -/
def insertAt
    (reader : Reader)
    (position : Nat)
    (tokens : List Token) :
    Reader :=
  let later := reader.tokens.length - position
  { reader with
    tokens :=
      reader.tokens.take later ++ tokens.reverse ++ reader.tokens.drop later }

/-- The length of the blanks and comments that a text begins with, and whether a line ends there. -/
def idleLength (inComment : Bool) : List Char → Nat × Bool
  | [] => (0, false)
  | character :: rest =>
      if isBreak character then
        ((idleLength false rest).1 + 1, true)
      else if inComment || character == '#' then
        let (length, broken) := idleLength true rest
        (length + 1, broken)
      else if character == ' ' then
        let (length, broken) := idleLength false rest
        (length + 1, broken)
      else
        (0, false)

/-- Skips a byte order mark at the beginning, blanks, comments and line breaks. -/
def skipIdle
    (reader : Reader) :
    Reader :=
  let cursor :=
    if reader.cursor.index == 0 && reader.cursor.peek? == some '\uFEFF' then
      reader.cursor.advance 1
    else
      reader.cursor
  let (length, broken) := idleLength false cursor.rest
  { reader with
    cursor := cursor.advance length
    allowsKey := reader.allowsKey || (broken && !reader.inFlow) }

/-- Whether a possible key has come to nothing where the reader stands. -/
def isStale
    (reader : Reader)
    (place : KeyPlace) :
    Bool :=
  place.cursor.line != reader.cursor.line ||
    place.cursor.index + keyReach < reader.cursor.index

/-- Forgets the possible keys that have come to nothing; a key that had to be one is a fault. -/
def dropStaleKeys
    (reader : Reader) :
    Except Fault Reader :=
  if reader.keys.any fun key => reader.isStale key.2 && key.2.required then
    .error .badToken
  else
    .ok { reader with keys := reader.keys.filter fun key => !reader.isStale key.2 }

def key?
    (reader : Reader) :
    Option KeyPlace :=
  (reader.keys.find? fun key => key.1 == reader.flowLevel).map Prod.snd

/-- Forgets the possible key of the flow level. -/
def forgetKey
    (reader : Reader) :
    Reader :=
  { reader with
    keys := reader.keys.filter fun key => key.1 != reader.flowLevel }

/-- Gives up the possible key of the flow level; a key that had to be one is a fault. -/
def removeKey
    (reader : Reader) :
    Except Fault Reader :=
  if reader.key?.any KeyPlace.required then
    .error .badToken
  else
    .ok reader.forgetKey

/-- Remembers that a key may begin here, if it may. -/
def saveKey
    (reader : Reader) :
    Except Fault Reader :=
  if reader.allowsKey then do
    let required := !reader.inFlow && reader.indent == reader.cursor.column
    let cleared ← reader.removeKey
    let place : KeyPlace := ⟨reader.tokens.length, required, reader.cursor⟩
    return { cleared with keys := (reader.flowLevel, place) :: cleared.keys }
  else
    .ok reader

/-- Closes block collections, of which the given ones are open, down to a column. -/
def unwindFrom (column : Int) : List Int → Reader → Reader
  | [], reader => reader
  | outer :: outers, reader =>
      if column < reader.indent then
        unwindFrom column outers
          { reader.emit .blockEnd with indent := outer, outerIndents := outers }
      else
        reader

/-- Closes the block collections that are indented more than a column. -/
def unwindIndent
    (reader : Reader)
    (column : Int) :
    Reader :=
  if reader.inFlow then reader else unwindFrom column reader.outerIndents reader

/-- Whether a block collection at a column is a new one. -/
def opensAt
    (reader : Reader)
    (column : Nat) :
    Bool :=
  !reader.inFlow && reader.indent < column

def pushIndent
    (reader : Reader)
    (column : Nat) :
    Reader :=
  { reader with
    indent := column
    outerIndents := reader.indent :: reader.outerIndents }

/-- Opens a block collection at the column of the reader, if it is a new one. -/
def openHere
    (reader : Reader)
    (start : Token) :
    Reader :=
  if reader.opensAt reader.cursor.column then
    (reader.pushIndent reader.cursor.column).emit start
  else
    reader

/-- Adds a token that is written with a number of characters. -/
def take
    (reader : Reader)
    (token : Token)
    (length : Nat) :
    Reader :=
  { reader.emit token with cursor := reader.cursor.advance length }

def allowing
    (reader : Reader)
    (allowsKey : Bool) :
    Reader :=
  { reader with allowsKey }

def readEnd
    (reader : Reader) :
    Except Fault Reader := do
  let reader ← (reader.unwindIndent (-1)).removeKey
  return (reader.allowing false).emit .textEnd

def readDirective
    (reader : Reader) :
    Except Fault Reader := do
  let reader ← (reader.unwindIndent (-1)).removeKey
  let (directive, cursor) ← Property.directive reader.cursor
  return { (reader.allowing false).emit (.directive directive) with cursor }

/-- Reads the mark of a document's beginning or end. -/
def readDocumentMark
    (reader : Reader)
    (token : Token) :
    Except Fault Reader := do
  let reader ← (reader.unwindIndent (-1)).removeKey
  return (reader.allowing false).take token 3

def readFlowStart
    (reader : Reader)
    (token : Token) :
    Except Fault Reader := do
  let reader ← reader.saveKey
  let inner := { reader with flowLevel := reader.flowLevel + 1 }
  return (inner.allowing true).take token 1

/-- Reads the end of a flow collection, of which one has to be open. -/
def readFlowEnd
    (reader : Reader)
    (token : Token) :
    Except Fault Reader := do
  let reader ← reader.removeKey
  if !reader.inFlow then
    throw .badStructure
  let outer := { reader with flowLevel := reader.flowLevel - 1 }
  return (outer.allowing false).take token 1

/-- Reads the comma between the entries of a flow collection. -/
def readFlowEntry
    (reader : Reader) :
    Except Fault Reader := do
  let reader ← (reader.allowing true).removeKey
  return reader.take .flowEntry 1

/-- Refuses a block indicator where no key may begin. -/
def requireKeyAllowed
    (reader : Reader) :
    Except Fault Unit :=
  if reader.inFlow || reader.allowsKey then .ok () else .error .badToken

/-- Reads the mark of an item of a block sequence. -/
def readBlockEntry
    (reader : Reader) :
    Except Fault Reader := do
  reader.requireKeyAllowed
  let reader ← ((reader.openHere .blockSequenceStart).allowing true).removeKey
  return reader.take .blockEntry 1

def readKey
    (reader : Reader) :
    Except Fault Reader := do
  reader.requireKeyAllowed
  let opened := reader.openHere .blockMappingStart
  let reader ← (opened.allowing (!opened.inFlow)).removeKey
  return reader.take .key 1

/-- Reads the mark of a value, which may turn what came before into a key. -/
def readValue
    (reader : Reader) :
    Except Fault Reader :=
  match reader.key? with
  | some place =>
      let column := place.cursor.column
      let reader := reader.forgetKey
      let marked :=
        if reader.opensAt column then
          (reader.pushIndent column).insertAt place.position [.blockMappingStart, .key]
        else
          reader.insertAt place.position [.key]
      .ok ((marked.allowing false).take .value 1)
  | none => do
      reader.requireKeyAllowed
      let opened := reader.openHere .blockMappingStart
      let reader ← (opened.allowing (!opened.inFlow)).removeKey
      return reader.take .value 1

def readName
    (reader : Reader)
    (token : List Char → Token) :
    Except Fault Reader := do
  let reader ← reader.saveKey
  let (name, cursor) ← Property.name reader.cursor
  return { (reader.allowing false).emit (token name) with cursor }

def readTag
    (reader : Reader) :
    Except Fault Reader := do
  let reader ← reader.saveKey
  let (tag, cursor) ← Property.tag reader.cursor
  return { (reader.allowing false).emit (.tag tag) with cursor }

def readBlockScalar
    (reader : Reader)
    (folded : Bool) :
    Except Fault Reader := do
  let reader ← (reader.allowing true).removeKey
  let (text, cursor) ← Block.read folded reader.indent reader.cursor
  return { reader.emit (.scalar false text) with cursor }

def readQuotedScalar
    (reader : Reader)
    (style : Flow.Style) :
    Except Fault Reader := do
  let reader ← reader.saveKey
  let (text, cursor) ← Flow.read style reader.cursor
  return { (reader.allowing false).emit (.scalar false text) with cursor }

def readPlainScalar
    (reader : Reader) :
    Except Fault Reader := do
  let reader ← reader.saveKey
  let reading := Plain.read reader.inFlow (reader.indent + 1) reader.cursor
  let reader := (reader.allowing reading.broken).emit (.scalar true reading.text)
  return { reader with cursor := reading.cursor }

/-- Whether a plain scalar may begin with a character before another one. -/
def beginsPlain
    (inFlow : Bool)
    (character : Char)
    (next : Option Char) :
    Bool :=
  !(isSeparator character || isIndicator character) ||
    (!endsWord next &&
      (character == '-' || (!inFlow && (character == '?' || character == ':'))))

/-- Reads the token that begins with a character. -/
def readFrom
    (reader : Reader)
    (character : Char) :
    Except Fault Reader :=
  let cursor := reader.cursor
  let next := cursor.ahead? 1
  let atMark := cursor.column == 0 && startsWithDocumentMark cursor.rest
  if character == '%' && cursor.column == 0 then
    reader.readDirective
  else if character == '-' && atMark then
    reader.readDocumentMark .documentStart
  else if character == '.' && atMark then
    reader.readDocumentMark .documentEnd
  else if character == '[' then
    reader.readFlowStart .flowSequenceStart
  else if character == '\x7b' then
    reader.readFlowStart .flowMappingStart
  else if character == ']' then
    reader.readFlowEnd .flowSequenceEnd
  else if character == '\x7d' then
    reader.readFlowEnd .flowMappingEnd
  else if character == ',' then
    reader.readFlowEntry
  else if character == '-' && endsWord next then
    reader.readBlockEntry
  else if character == '?' && (reader.inFlow || endsWord next) then
    reader.readKey
  else if character == ':' && (reader.inFlow || endsWord next) then
    reader.readValue
  else if character == '*' then
    reader.readName .alias
  else if character == '&' then
    reader.readName .anchor
  else if character == '!' then
    reader.readTag
  else if character == '|' && !reader.inFlow then
    reader.readBlockScalar false
  else if character == '>' && !reader.inFlow then
    reader.readBlockScalar true
  else if character == '\'' then
    reader.readQuotedScalar .single
  else if character == '"' then
    reader.readQuotedScalar .double
  else if beginsPlain reader.inFlow character next then
    reader.readPlainScalar
  else
    .error .badToken

/-- Moves to the next token and closes what ends before it. -/
def prepare
    (reader : Reader) :
    Except Fault Reader := do
  let reader ← reader.skipIdle.dropStaleKeys
  return reader.unwindIndent reader.cursor.column

/-- Reads the next token, with the tokens that its place brings along. -/
def readNext
    (reader : Reader) :
    Except Fault Reader := do
  let reader ← reader.prepare
  match reader.cursor.peek? with
  | none => reader.readEnd
  | some character => reader.readFrom character

/-- Whether the end of the text has been read. -/
def isDone
    (reader : Reader) :
    Bool :=
  reader.tokens.head? == some .textEnd

/-- The number of tokens before the first one that may still turn out to be a key. -/
def settledCount
    (reader : Reader) :
    Nat :=
  let possible := reader.keys.filter fun key => !reader.isStale key.2
  ((possible.map fun key => key.2.position).min?).getD reader.tokens.length

/--
The tokens up to a fault that the next token has.  A token that may still turn out
to be a key is not given out before what follows it, so the fault takes its place.
-/
def stopped
    (reader : Reader)
    (cause : Fault) :
    List Token :=
  reader.tokens.reverse.take reader.settledCount ++ [.fault cause]

/-- Reads tokens to the end of the text or to a fault, at most as many as the fuel allows. -/
def readAll : Nat → Reader → List Token
  | 0, reader => reader.stopped .badToken
  | fuel + 1, reader =>
      match reader.readNext with
      | .error cause => reader.stopped cause
      | .ok reader => if reader.isDone then reader.tokens.reverse else readAll fuel reader

end Reader

def tokensOf
    (text : List Char) :
    List Token :=
  Reader.readAll (text.length + 1) { cursor := { rest := text } }

end Delimit.Yaml
