/-!
# Base 64

Bytes are written in groups of four characters, each for six bits.  Characters
outside the alphabet are passed over.  Padding ends the data once the group is
full with it; data that stops in the middle of a group is not well formed.
-/

namespace Delimit.Text.Base64

/-- The six bits that a character stands for. -/
def bits?
    (character : Char) :
    Option Nat :=
  if character.isUpper then
    some (character.toNat - 'A'.toNat)
  else if character.isLower then
    some (character.toNat - 'a'.toNat + 26)
  else if character.isDigit then
    some (character.toNat - '0'.toNat + 52)
  else if character == '+' then
    some 62
  else if character == '/' then
    some 63
  else
    none

/-- Where decoding stands within a group. -/
structure Group where
  /-- The characters of the group so far. -/
  count : Nat := 0
  /-- The bits that do not fill a byte yet. -/
  bits : Nat := 0
  /-- The padding since the last character. -/
  padding : Nat := 0

/-- The byte that a character completes in a group, and the group after it. -/
def Group.add
    (group : Group)
    (bits : Nat) :
    Option UInt8 × Group :=
  match group.count with
  | 0 => (none, { count := 1, bits })
  | 1 =>
      (some (UInt8.ofNat (group.bits * 4 + bits / 16)), { count := 2, bits := bits % 16 })
  | 2 =>
      (some (UInt8.ofNat (group.bits * 16 + bits / 4)), { count := 3, bits := bits % 4 })
  | _ => (some (UInt8.ofNat (group.bits * 64 + bits)), {})

/-- The bytes that a text writes from within a group on. -/
def decodeFrom (group : Group) : List Char → Option (List UInt8)
  | [] => if group.count = 0 then some [] else none
  | character :: rest =>
      if character == '=' then
        if 2 ≤ group.count then
          if 4 ≤ group.count + group.padding + 1 then
            some []
          else
            decodeFrom { group with padding := group.padding + 1 } rest
        else
          decodeFrom group rest
      else
        match bits? character with
        | none => decodeFrom group rest
        | some bits =>
            let (byte?, group) := group.add bits
            (decodeFrom group rest).map (byte?.toList ++ ·)

def decode?
    (text : List Char) :
    Option (List UInt8) :=
  decodeFrom {} text

end Delimit.Text.Base64
