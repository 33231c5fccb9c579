import Delimit.Text.Shown

/-!
# The quoted form of a text

Messages show a text between quotes, on one line and with every character that
cannot be shown written as an escape.  The quotes are single, unless the text
holds a single quote and no double quote.  Bytes have a quoted form of their own,
in which every byte outside printable ASCII is an escape.
-/

namespace Delimit.Text

/-- The lower-case hexadecimal digits of a number, padded with zeros to a width. -/
def paddedHex
    (width number : Nat) :
    List Char :=
  let digits := Nat.toDigits 16 number
  List.replicate (width - digits.length) '0' ++ digits

/-- The quote that a quoted form is written between. -/
def quoteFor
    (text : List Char) :
    Char :=
  if text.contains '\'' && !text.contains '"' then '"' else '\''

def quotedCharacter
    (quote character : Char) :
    List Char :=
  if character == quote || character == '\\' then
    ['\\', character]
  else if character == '\t' then
    ['\\', 't']
  else if character == '\n' then
    ['\\', 'n']
  else if character == '\r' then
    ['\\', 'r']
  else if isShown character then
    [character]
  else
    let code := character.toNat
    if code ≤ 0xFF then
      '\\' :: 'x' :: paddedHex 2 code
    else if code ≤ 0xFFFF then
      '\\' :: 'u' :: paddedHex 4 code
    else
      '\\' :: 'U' :: paddedHex 8 code

def quoted
    (text : List Char) :
    List Char :=
  let quote := quoteFor text
  quote :: text.flatMap (quotedCharacter quote) ++ [quote]

def quotedByte
    (quote : Char)
    (byte : UInt8) :
    List Char :=
  let code := byte.toNat
  let character := Char.ofNat code
  if character == quote || character == '\\' then
    ['\\', character]
  else if character == '\t' then
    ['\\', 't']
  else if character == '\n' then
    ['\\', 'n']
  else if character == '\r' then
    ['\\', 'r']
  else if 0x20 ≤ code && code < 0x7F then
    [character]
  else
    '\\' :: 'x' :: paddedHex 2 code

/-- The quoted form of a sequence of bytes, marked by a letter before the quotes. -/
def quotedBytes
    (bytes : List UInt8) :
    List Char :=
  let quote := quoteFor (bytes.map fun byte => Char.ofNat byte.toNat)
  'b' :: quote :: bytes.flatMap (quotedByte quote) ++ [quote]

end Delimit.Text
