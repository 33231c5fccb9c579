/-!
# Coloured text

A terminal colours the text between two escape sequences.  The colour is closed
before every line break and opened again after it, and where the text itself
closes a colour, the colour is opened again.
-/

namespace Delimit.Text

inductive Colour where
  | red
  | green
  | yellow
  | blue
  deriving DecidableEq, Repr

namespace Colour

def number : Colour → String
  | red => "31"
  | green => "32"
  | yellow => "33"
  | blue => "34"

def opening
    (colour : Colour) :
    List Char :=
  '\x1B' :: '[' :: colour.number.toList ++ ['m']

def closing : List Char := '\x1B' :: "[39m".toList

def inside (colour : Colour) : List Char → List Char
  | '\x1B' :: '[' :: '3' :: '9' :: 'm' :: rest => colour.opening ++ inside colour rest
  | '\r' :: '\n' :: rest => closing ++ '\r' :: '\n' :: colour.opening ++ inside colour rest
  | '\n' :: rest => closing ++ '\n' :: colour.opening ++ inside colour rest
  | character :: rest => character :: inside colour rest
  | [] => []

/-- A coloured text; there is nothing to colour in an empty one. -/
def paint
    (colour : Colour)
    (text : List Char) :
    List Char :=
  if text.isEmpty then
    []
  else
    colour.opening ++ colour.inside text ++ closing

end Colour

end Delimit.Text
