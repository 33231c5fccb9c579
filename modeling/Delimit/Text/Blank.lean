import Delimit.Text.Ranges

/-!
# Blank characters

Blanks separate tokens and surround text that counts as empty.  They are the
characters of bidirectional class WS, B or S together with category Zs, so the
separators U+001C to U+001F, the next-line control U+0085 and the line separator
U+2028 are blank, while the zero-width space U+200B and the byte order mark
U+FEFF are not.
-/

namespace Delimit.Text

def blankRanges : Ranges := ⟨[
  (0x9, 0xD), (0x1C, 0x20), (0x85, 0x85), (0xA0, 0xA0), (0x1680, 0x1680), (0x2000, 0x200A),
  (0x2028, 0x2029), (0x202F, 0x202F), (0x205F, 0x205F), (0x3000, 0x3000)]⟩

def isBlank
    (character : Char) :
    Bool :=
  blankRanges.contains character

/-- A text without the blanks at its two ends. -/
def strip
    (text : List Char) :
    List Char :=
  ((text.dropWhile isBlank).reverse.dropWhile isBlank).reverse

/-- Whether a text has no character but blanks. -/
def isAllBlank
    (text : List Char) :
    Bool :=
  text.all isBlank

@[simp]
theorem strip_nil : strip [] = [] := rfl

@[simp]
theorem isAllBlank_nil : isAllBlank [] = true := rfl

@[simp]
theorem isAllBlank_cons
    (character : Char)
    (rest : List Char) :
    isAllBlank (character :: rest) =
      (isBlank character && isAllBlank rest) := by
  simp [isAllBlank]

@[simp]
theorem isAllBlank_append
    (front back : List Char) :
    isAllBlank (front ++ back) =
      (isAllBlank front && isAllBlank back) := by
  simp [isAllBlank]

end Delimit.Text
