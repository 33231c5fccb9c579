import Delimit.Proofs.DelimiterSpans
import Delimit.Proofs.LiteralReading
import Delimit.Proofs.Occurrences
import Mathlib.Order.Bounds.Basic

/-!
# Which quote closes a literal

A literal is read with an account of whether the next character is escaped.  Looking
back instead, a quote closes the literal when an even number of backslashes stands
right in front of it, counted from where the content begins.  Both say the same: a
literal ends behind the first such quote of its own sort, and without one it runs to
the end of the text.
-/

namespace Delimit

/--
Whether a quote stands at a place of a text, behind an even number of backslashes of
the content that begins at an offset.
-/
def ClosesAt
    (quote : Quote)
    (text : List Char)
    (content place : Nat) :
    Prop :=
  content ≤ place ∧ text[place]? = some quote.character ∧
    trailingBackslashes (textBetween text content place) % 2 = 0

theorem closesAt_zero_iff
    (quote : Quote)
    (text : List Char)
    (place : Nat) :
    ClosesAt quote text 0 place ↔
      text[place]? = some quote.character ∧
        endsWithSplice (text.take place) = false := by
  simp [ClosesAt, textBetween, endsWithSplice]

/-- In the content itself, places are counted from where it begins. -/
theorem closesAt_iff_drop
    (quote : Quote)
    (text : List Char)
    (content place : Nat) :
    ClosesAt quote text content place ↔
      ∃ later, place = later + content ∧
        ClosesAt quote (text.drop content) 0 later := by
  have moved : ∀ later, ClosesAt quote text content (content + later) ↔
      ClosesAt quote (text.drop content) 0 later := by
    intro later
    simp only [ClosesAt, textBetween, Nat.le_add_right, Nat.zero_le,
      List.getElem?_drop, List.drop_take, Nat.add_sub_cancel_left, List.drop_zero,
      Nat.sub_zero]
  constructor
  · intro closes
    obtain ⟨later, rfl⟩ := Nat.exists_eq_add_of_le closes.1
    exact ⟨later, Nat.add_comm _ _, (moved later).mp closes⟩
  · rintro ⟨later, rfl, closes⟩
    rw [Nat.add_comm]
    exact (moved later).mpr closes

theorem not_closesAt_nil
    (quote : Quote)
    (place : Nat) :
    ¬ ClosesAt quote [] 0 place := by
  simp [ClosesAt]

/-- An escaped character closes nothing, and neither does its backslash. -/
theorem closesAt_escape
    (quote : Quote)
    (escaped : Char)
    (rest : List Char)
    (place : Nat) :
    ClosesAt quote ('\\' :: escaped :: rest) 0 place ↔
      ∃ later, place = later + 2 ∧ ClosesAt quote rest 0 later := by
  match place with
  | 0 =>
      simp [closesAt_zero_iff, quote.character_ne_backslash.symm]
  | 1 =>
      simp [closesAt_zero_iff, endsWithSplice, trailingBackslashes]
  | later + 2 =>
      simp [closesAt_zero_iff, endsWithSplice_escape]

theorem closesAt_plain
    {character : Char}
    (plain : character ≠ '\\')
    (quote : Quote)
    (rest : List Char)
    (place : Nat) :
    ClosesAt quote (character :: rest) 0 place ↔
      place = 0 ∧ character = quote.character ∨
        ∃ later, place = later + 1 ∧ ClosesAt quote rest 0 later := by
  cases place with
  | zero => simp [closesAt_zero_iff, endsWithSplice, trailingBackslashes]
  | succ later =>
      have behind := endsWithSplice_append_cons plain [] (rest.take later)
      rw [List.nil_append] at behind
      simp [closesAt_zero_iff, behind]

namespace LiteralContent

/-- A closed literal ends behind the first place at which it can. -/
theorem isLeast_of_closed
    {quote : Quote}
    {text : List Char}
    (closed : (read quote text).ending = .closed) :
    ∃ place, (read quote text).covered.length = place + 1 ∧
      IsLeast {place | ClosesAt quote text 0 place} place := by
  induction text using escapeInduction with
  | nil => simp at closed
  | lone => simp at closed
  | escape escaped rest induction =>
      rw [read_escape] at closed
      obtain ⟨place, length_eq, least⟩ := induction closed
      refine ⟨place + 2, ?_,
        isLeast_moved least (closesAt_escape quote escaped rest)⟩
      simp [length_eq]
  | plain character rest plain induction =>
      rw [read_plain plain] at closed ⊢
      split at closed
      · rename_i same
        refine ⟨0, by simp [same], ?_, fun _ _ => Nat.zero_le _⟩
        exact (closesAt_plain plain quote rest 0).mpr (.inl ⟨rfl, same⟩)
      · rename_i different
        obtain ⟨place, length_eq, least⟩ := induction closed
        refine ⟨place + 1, by simp [different, length_eq], isLeast_moved least ?_⟩
        intro other
        simp [closesAt_plain plain, different]

/-- A literal that is left open can end nowhere. -/
theorem not_closesAt_of_unclosed
    {quote : Quote}
    {text : List Char}
    (unclosed : (read quote text).ending ≠ .closed)
    (place : Nat) :
    ¬ ClosesAt quote text 0 place := by
  induction text using escapeInduction generalizing place with
  | nil => exact not_closesAt_nil quote place
  | lone =>
      rintro ⟨-, here, -⟩
      exact quote.character_ne_backslash
        (List.mem_singleton.mp (List.mem_of_getElem? here))
  | escape escaped rest induction =>
      rw [read_escape] at unclosed
      rw [closesAt_escape]
      rintro ⟨later, -, closes⟩
      exact induction unclosed later closes
  | plain character rest plain induction =>
      rw [read_plain plain] at unclosed
      split at unclosed
      · exact (unclosed rfl).elim
      · rename_i different
        rw [closesAt_plain plain]
        rintro (⟨-, same⟩ | ⟨later, -, closes⟩)
        · exact different same
        · exact induction unclosed later closes

end LiteralContent

namespace QuotedLiteral

/--
How a literal is reported whose content begins at an offset: it ends behind the first
quote of its sort with an even number of backslashes in front, or runs to the end.
-/
structure EndsByParity
    (quote : Quote)
    (text : List Char)
    (start content : Nat)
    (literal : QuotedLiteral) :
    Prop where
  quote_eq : literal.quote = quote
  start_eq : literal.start = start
  terminated_iff : ∀ stop,
    literal.terminated = true ∧ literal.stop = stop ↔
      ∃ place, stop = place + 1 ∧
        IsLeast {place | ClosesAt quote text content place} place
  stop_eq : literal.terminated = false →
    literal.stop = max text.length content

/-- What is read of the content decides where the literal ends. -/
theorem endsByParity_spanning
    (quote : Quote)
    (text : List Char)
    (start content : Nat) :
    EndsByParity quote text start content (spanning quote text start content) := by
  have moved := closesAt_iff_drop quote text content
  cases ending : (LiteralContent.read quote (text.drop content)).ending with
  | closed =>
      obtain ⟨place, length_eq, least⟩ := LiteralContent.isLeast_of_closed ending
      have first := isLeast_moved least moved
      refine ⟨rfl, rfl, fun stop => ?_, ?_⟩
      · simp only [spanning, ending, LiteralEnding.isClosed, true_and, length_eq]
        constructor
        · rintro rfl
          exact ⟨place + content, by omega, first⟩
        · rintro ⟨other, rfl, least⟩
          rw [least.unique first]
          omega
      · simp [spanning, ending, LiteralEnding.isClosed]
  | unclosed escaping =>
      have none := LiteralContent.not_closesAt_of_unclosed
        (show (LiteralContent.read quote (text.drop content)).ending ≠ .closed by
          rw [ending]
          simp)
      have whole := congrArg List.length
        (LiteralContent.read_append quote (text.drop content))
      rw [LiteralContent.rest_of_unclosed (by simp [ending]), List.append_nil,
        List.length_drop] at whole
      refine ⟨rfl, rfl, fun stop => ?_, fun _ => ?_⟩
      · simp only [spanning, ending, LiteralEnding.isClosed, Bool.false_eq_true,
          false_and, false_iff]
        rintro ⟨place, -, least⟩
        obtain ⟨later, -, closes⟩ := (moved place).mp least.1
        exact none later closes
      · simp only [spanning, whole]
        omega

/--
Literals end by the parity of backslashes, both where they begin with a quote and where
they are continued from an earlier line.
-/
theorem endsByParity_startingAt_continued
    (quote : Quote)
    (text : List Char)
    (offset : Nat) :
    (text[offset]? = some quote.character →
        ∃ literal, startingAt text offset = .ok literal ∧
          EndsByParity quote text offset (offset + 1) literal) ∧
      EndsByParity quote text offset offset (continued quote text offset) := by
  refine ⟨fun here => ?_, endsByParity_spanning quote text offset offset⟩
  refine ⟨_, ?_, endsByParity_spanning quote text offset (offset + 1)⟩
  simp [startingAt, here]

/-- A quote behind three backslashes, and another one behind two. -/
def escapedText : List Char := "a\"\\\\\\\"b\\\\\"c".toList

/-- The literal passes over the first quote and ends behind the second one. -/
theorem endsByParity_escapedText :
    escapedText[1]? = some Quote.double.character ∧
      (∃ literal, startingAt escapedText 1 = .ok literal ∧
        EndsByParity .double escapedText 1 2 literal ∧
        literal.terminated = true ∧ literal.stop = 10) ∧
      EndsByParity .single escapedText 20 20 (continued .single escapedText 20) := by
  have here : escapedText[1]? = some Quote.double.character := rfl
  obtain ⟨literal, found, ends⟩ :=
    (endsByParity_startingAt_continued .double escapedText 1).1 here
  refine ⟨here, ⟨literal, found, ends, ?_⟩,
    (endsByParity_startingAt_continued .single escapedText 20).2⟩
  cases found
  decide

end QuotedLiteral

end Delimit
