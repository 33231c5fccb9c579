import Delimit.Text.Blank
import Delimit.Text.Word
import Delimit.Token

/-!
# Lexemes

A lexeme is one token together with the blanks in front of it and the text after
it.  Reading a lexeme looks only at the text that is still to be read, so the
offsets of a token are a matter of counting what came before, and the three parts
of a lexeme concatenate to the text it was read from.

A line comment swallows the rest of its line and is reported as the end of the
line.  The two characters of a block comment marker come back one at a time.
-/

namespace Delimit

/-- A token, the blanks before it and the text after it. -/
structure Lexeme where
  gap : List Char
  kind : TokenKind
  /-- The text that the token covers. -/
  value : List Char
  rest : List Char
  deriving DecidableEq, Repr

namespace Lexeme

/-- The kind of a token that is a single character of its own. -/
def symbol? : Char → Option TokenKind
  | '(' => some (.opening .paren)
  | ')' => some (.closing .paren)
  | '[' => some (.opening .square)
  | ']' => some (.closing .square)
  | '{' => some (.opening .brace)
  | '}' => some (.closing .brace)
  | '/' => some .slash
  | '*' => some .asterisk
  | '"' => some (.quote .double)
  | '\'' => some (.quote .single)
  | '#' => some .hash
  | _ => none

/-- The lexeme of a text that begins with no blank, after a given gap. -/
def ofUnblank
    (gap : List Char) :
    List Char → Lexeme
  | [] => ⟨gap, .endOfLine, [], []⟩
  | '/' :: '/' :: rest => ⟨gap, .endOfLine, '/' :: '/' :: rest, []⟩
  | character :: rest =>
      match symbol? character with
      | some kind => ⟨gap, kind, [character], rest⟩
      | none =>
          if Text.isWordStart character then
            ⟨gap, .identifier,
              character :: rest.takeWhile Text.isWordPart,
              rest.dropWhile Text.isWordPart⟩
          else
            ⟨gap, .other, [character], rest⟩

def next
    (text : List Char) :
    Lexeme :=
  ofUnblank (text.takeWhile Text.isBlank) (text.dropWhile Text.isBlank)

theorem symbol?_ne_endOfLine
    (character : Char) :
    symbol? character ≠ some .endOfLine := by
  unfold symbol?
  split <;> simp

/-- The token and the text after it make up the text without the gap. -/
theorem ofUnblank_append
    (gap text : List Char) :
    (ofUnblank gap text).value ++ (ofUnblank gap text).rest = text := by
  unfold ofUnblank
  split
  · rfl
  · simp
  · split
    · rfl
    · split
      · simp
      · rfl

theorem ofUnblank_gap
    (gap text : List Char) :
    (ofUnblank gap text).gap = gap := by
  unfold ofUnblank
  split
  · rfl
  · rfl
  · split
    · rfl
    · split <;> rfl

/-- Only the end of the line covers nothing. -/
theorem ofUnblank_value_ne_nil
    {gap text : List Char}
    (inner : (ofUnblank gap text).kind ≠ .endOfLine) :
    (ofUnblank gap text).value ≠ [] := by
  revert inner
  unfold ofUnblank
  split
  · simp
  · simp
  · split
    · simp
    · split <;> simp

/-- The parts of the first lexeme concatenate to the text. -/
theorem next_append
    (text : List Char) :
    (next text).gap ++ ((next text).value ++ (next text).rest) = text := by
  unfold next
  rw [ofUnblank_append, ofUnblank_gap]
  exact List.takeWhile_append_dropWhile

/-- The text after a token that does not end the line is shorter than the text before it. -/
theorem length_rest_next
    {text : List Char}
    (inner : (next text).kind ≠ .endOfLine) :
    (next text).rest.length < text.length := by
  have tiling := congrArg List.length (next_append text)
  have covered : 0 < (next text).value.length :=
    List.length_pos_iff.mpr (ofUnblank_value_ne_nil inner)
  simp only [List.length_append] at tiling
  omega

end Lexeme

end Delimit
