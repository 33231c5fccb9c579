import Delimit.Literal
import Delimit.Validator

/-!
# Reading literals in pieces

The content of a literal can be read in pieces.  A closed literal ignores what
follows it.  A literal that is left open outside an escape goes on with the next
piece as if both were one text, and one that is left open inside an escape does so
once the backslash that waits is dropped.

Whether a text ends in a splice is decided by its trailing backslashes alone.
Inside an open literal, this is the same as being inside an escape.
-/

namespace Delimit

theorem Quote.character_ne_backslash
    (quote : Quote) :
    quote.character ≠ '\\' := by
  cases quote <;> decide

namespace LiteralContent

@[simp]
theorem covered_prepend
    (front : List Char)
    (content : LiteralContent) :
    (prepend front content).covered = front ++ content.covered := rfl

@[simp]
theorem ending_prepend
    (front : List Char)
    (content : LiteralContent) :
    (prepend front content).ending = content.ending := rfl

@[simp]
theorem rest_prepend
    (front : List Char)
    (content : LiteralContent) :
    (prepend front content).rest = content.rest := rfl

/-- Induction on a text that is taken escape by escape. -/
theorem escapeInduction
    {motive : List Char → Prop}
    (nil : motive [])
    (lone : motive ['\\'])
    (escape : ∀ escaped rest,
      motive rest → motive ('\\' :: escaped :: rest))
    (plain : ∀ character rest, character ≠ '\\' →
      motive rest → motive (character :: rest)) :
    ∀ text, motive text
  | [] => nil
  | [character] => by
      by_cases backslash : character = '\\'
      · exact backslash ▸ lone
      · exact plain character [] backslash nil
  | character :: escaped :: rest => by
      by_cases backslash : character = '\\'
      · subst backslash
        exact escape escaped rest
          (escapeInduction nil lone escape plain rest)
      · exact plain character (escaped :: rest) backslash
          (escapeInduction nil lone escape plain (escaped :: rest))

@[simp]
theorem read_nil
    (quote : Quote) :
    read quote [] = ⟨[], .unclosed false, []⟩ := by
  rw [read]

@[simp]
theorem read_lone
    (quote : Quote) :
    read quote ['\\'] = ⟨['\\'], .unclosed true, []⟩ := by
  rw [read]

@[simp]
theorem read_escape
    (quote : Quote)
    (escaped : Char)
    (rest : List Char) :
    read quote ('\\' :: escaped :: rest) =
      prepend ['\\', escaped] (read quote rest) := by
  rw [read]

theorem read_plain
    {quote : Quote}
    {character : Char}
    (plain : character ≠ '\\')
    (rest : List Char) :
    read quote (character :: rest) =
      if character = quote.character then
        ⟨[character], .closed, rest⟩
      else
        prepend [character] (read quote rest) := by
  rw [read]
  · simp_all
  · simp_all

theorem append_of_read
    {quote : Quote}
    {text covered rest : List Char}
    {ending : LiteralEnding}
    (literal : read quote text = ⟨covered, ending, rest⟩) :
    covered ++ rest = text := by
  have whole := read_append quote text
  rwa [literal] at whole

theorem read_append_of_closed
    {quote : Quote}
    {text : List Char}
    (closed : (read quote text).ending = .closed)
    (other : List Char) :
    read quote ((read quote text).covered ++ other) =
      ⟨(read quote text).covered, .closed, other⟩ := by
  induction text using escapeInduction with
  | nil => simp at closed
  | lone => simp at closed
  | escape escaped rest induction =>
      rw [read_escape] at closed
      simp [induction closed, prepend]
  | plain character rest plain induction =>
      rw [read_plain plain] at closed ⊢
      split
      · rename_i same
        rw [List.singleton_append, read_plain plain, if_pos same]
      · rename_i different
        rw [if_neg different] at closed
        simp [read_plain plain, different, induction closed, prepend]

/-- A literal is read in the same way in front of every text that begins alike. -/
theorem read_replace_rest
    {quote : Quote}
    {text covered rest other : List Char}
    {ending : LiteralEnding}
    (literal : read quote text = ⟨covered, ending, rest⟩)
    (alike : other.head? = rest.head?) :
    read quote (covered ++ other) = ⟨covered, ending, other⟩ := by
  cases ending with
  | closed =>
      have again := read_append_of_closed (by rw [literal]) other
      rwa [literal] at again
  | unclosed escaping =>
      have nothing : (read quote text).rest = [] :=
        rest_of_unclosed (by simp [literal])
      rw [literal] at nothing
      have whole := append_of_read literal
      simp_all

/-- A literal that is open outside escapes goes on with the text behind it. -/
theorem read_append_of_unclosed
    {quote : Quote}
    {text : List Char}
    (unclosed : (read quote text).ending = .unclosed false)
    (other : List Char) :
    read quote (text ++ other) = prepend text (read quote other) := by
  induction text using escapeInduction with
  | nil => simp [prepend]
  | lone => simp at unclosed
  | escape escaped rest induction =>
      rw [read_escape] at unclosed
      simp [induction unclosed, prepend]
  | plain character rest plain induction =>
      rw [read_plain plain] at unclosed
      split at unclosed
      · cases unclosed
      · rename_i different
        simp [read_plain plain, different, induction unclosed, prepend]

/-- Without the backslash that waits, an open literal is outside escapes. -/
theorem read_dropLast_of_escaping
    {quote : Quote}
    {text : List Char}
    (escaping : (read quote text).ending = .unclosed true) :
    (read quote text.dropLast).ending = .unclosed false := by
  induction text using escapeInduction with
  | nil => simp at escaping
  | lone => simp
  | escape escaped rest induction =>
      rw [read_escape, ending_prepend] at escaping
      cases rest with
      | nil => simp at escaping
      | cons character rest => simpa using induction escaping
  | plain character rest plain induction =>
      rw [read_plain plain] at escaping
      split at escaping
      · cases escaping
      · rename_i different
        rw [ending_prepend] at escaping
        cases rest with
        | nil => simp at escaping
        | cons second rest =>
            simpa [read_plain plain, different] using induction escaping

end LiteralContent

/-- Only what stands behind the last other character decides about a splice. -/
theorem endsWithSplice_append_cons
    {character : Char}
    (plain : character ≠ '\\')
    (front rest : List Char) :
    endsWithSplice (front ++ character :: rest) = endsWithSplice rest := by
  have trailing : trailingBackslashes (front ++ character :: rest) =
      trailingBackslashes rest := by
    simp only [trailingBackslashes, List.reverse_append, List.reverse_cons,
      List.append_assoc, List.singleton_append, List.takeWhile_append]
    split
    · rename_i same
      simp [plain, same]
    · rfl
  rw [endsWithSplice, endsWithSplice, trailing]

theorem getLast?_of_endsWithSplice
    {text : List Char}
    (splice : endsWithSplice text = true) :
    text.getLast? = some '\\' := by
  rcases List.eq_nil_or_concat text with rfl | ⟨front, last, rfl⟩
  · cases splice
  · by_cases plain : last = '\\'
    · simp [plain]
    · rw [List.concat_eq_append, endsWithSplice_append_cons plain] at splice
      cases splice

theorem endsWithSplice_escape
    (escaped : Char)
    (rest : List Char) :
    endsWithSplice ('\\' :: escaped :: rest) = endsWithSplice rest := by
  by_cases backslash : escaped = '\\'
  · subst backslash
    have parity : trailingBackslashes ('\\' :: '\\' :: rest) % 2 =
        trailingBackslashes rest % 2 := by
      simp only [trailingBackslashes, List.reverse_cons, List.append_assoc,
        List.singleton_append, List.takeWhile_append]
      split
      · rename_i same
        simp [same]
      · rfl
    rw [endsWithSplice, endsWithSplice, parity]
  · exact endsWithSplice_append_cons backslash ['\\'] rest

/-- An open literal is inside an escape when its text ends in a splice. -/
theorem LiteralContent.ending_of_unclosed
    {quote : Quote}
    {text : List Char}
    {escaping : Bool}
    (unclosed : (read quote text).ending = .unclosed escaping) :
    escaping = endsWithSplice text := by
  induction text using escapeInduction with
  | nil => simp_all [endsWithSplice, trailingBackslashes]
  | lone => simp_all [endsWithSplice, trailingBackslashes]
  | escape escaped rest induction =>
      rw [read_escape] at unclosed
      rw [endsWithSplice_escape, ← induction unclosed]
  | plain character rest plain induction =>
      rw [read_plain plain] at unclosed
      split at unclosed
      · cases unclosed
      · exact (induction unclosed).trans
          (endsWithSplice_append_cons plain [] rest).symm

end Delimit
