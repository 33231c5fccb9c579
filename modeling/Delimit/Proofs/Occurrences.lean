import Mathlib.Order.Bounds.Defs

/-!
# Where words stand in a text

A word stands in a text at an offset if the text goes on with it there.  Words of
one text may overlap.  Offsets move along with the text in front of them, and a word
stands nowhere inside a piece of text without its first character.
-/

namespace Delimit

/-- Whether a word stands in a text at an offset. -/
def StandsAt
    (word text : List Char)
    (offset : Nat) :
    Prop :=
  word <+: text.drop offset

instance
    (word text : List Char)
    (offset : Nat) :
    Decidable (StandsAt word text offset) :=
  inferInstanceAs (Decidable (word <+: text.drop offset))

@[simp]
theorem standsAt_cons_succ
    (word text : List Char)
    (character : Char)
    (offset : Nat) :
    StandsAt word (character :: text) (offset + 1) ↔ StandsAt word text offset :=
  Iff.rfl

@[simp]
theorem not_standsAt_nil
    (first : Char)
    (word : List Char)
    (offset : Nat) :
    ¬ StandsAt (first :: word) [] offset := by
  simp [StandsAt]

/-- A word that is not empty stands before the end of a text. -/
theorem StandsAt.lt_length
    {first : Char}
    {word text : List Char}
    {offset : Nat}
    (stands : StandsAt (first :: word) text offset) :
    offset < text.length := by
  apply Nat.lt_of_not_le
  intro beyond
  rw [StandsAt, List.drop_of_length_le beyond] at stands
  simp at stands

theorem standsAt_pair_zero
    (first second character : Char)
    (text : List Char) :
    StandsAt [first, second] (character :: text) 0 ↔
      character = first ∧ text.head? = some second := by
  rw [StandsAt, List.drop_zero, List.cons_prefix_cons]
  have next : [second] <+: text ↔ text.head? = some second := by
    cases text <;> simp [List.cons_prefix_cons, eq_comm]
  rw [next, eq_comm]

theorem standsAt_append
    (word front text : List Char)
    (offset : Nat) :
    StandsAt word (front ++ text) (front.length + offset) ↔
      StandsAt word text offset := by
  rw [StandsAt, List.drop_length_add_append, StandsAt]

/-- A word stands nowhere inside a piece of text without its first character. -/
theorem not_standsAt_of_notMem
    {first : Char}
    {piece : List Char}
    {offset : Nat}
    (absent : first ∉ piece)
    (inside : offset < piece.length)
    (word rest : List Char) :
    ¬ StandsAt (first :: word) (piece ++ rest) offset := by
  rintro ⟨behind, same⟩
  have here : (piece ++ rest)[offset]? = some first := by
    rw [← List.head?_drop, ← same]
    rfl
  rw [List.getElem?_append_left inside] at here
  exact absent (List.mem_of_getElem? here)

/-- Places that are all moved on have their least one moved on. -/
theorem isLeast_moved
    {before after : Nat → Prop}
    {place width : Nat}
    (least : IsLeast {place | after place} place)
    (moved : ∀ place, before place ↔
      ∃ later, place = later + width ∧ after later) :
    IsLeast {place | before place} (place + width) := by
  refine ⟨(moved _).mpr ⟨place, rfl, least.1⟩, ?_⟩
  intro other closes
  obtain ⟨later, rfl, same⟩ := (moved other).mp closes
  exact Nat.add_le_add_right (least.2 same) width

end Delimit
