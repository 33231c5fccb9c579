import Delimit.Yaml.Cursor

/-!
# Moves of a cursor

Readers move a cursor over what they have recognised.  What is left behind a cursor
depends only on how far it moves; its column grows along a line and is counted anew
behind a line break.
-/

namespace Delimit.Yaml.Cursor

@[simp]
theorem rest_step
    (cursor : Cursor)
    (character : Char)
    (rest : List Char) :
    (cursor.step character rest).rest = rest := by
  unfold step
  split
  · rfl
  · split <;> rfl

@[simp]
theorem advance_zero
    (cursor : Cursor) :
    cursor.advance 0 = cursor := rfl

theorem advance_succ
    {cursor : Cursor}
    {character : Char}
    {rest : List Char}
    (next : cursor.rest = character :: rest)
    (count : Nat) :
    cursor.advance (count + 1) =
      (cursor.step character rest).advance count := by
  rw [advance, next]

theorem advance_of_rest_eq_nil
    {cursor : Cursor}
    (ended : cursor.rest = [])
    (count : Nat) :
    cursor.advance count = cursor := by
  cases count with
  | zero => rfl
  | succ count => rw [advance, ended]

@[simp]
theorem rest_advance
    (cursor : Cursor)
    (count : Nat) :
    (cursor.advance count).rest = cursor.rest.drop count := by
  induction count generalizing cursor with
  | zero => rfl
  | succ count induction =>
      cases next : cursor.rest with
      | nil => rw [advance_of_rest_eq_nil next, next, List.drop_nil]
      | cons character rest =>
          rw [advance_succ next, induction, rest_step, List.drop_succ_cons]

theorem rest_advance_length
    {cursor : Cursor}
    {text rest : List Char}
    (next : cursor.rest = text ++ rest) :
    (cursor.advance text.length).rest = rest := by
  rw [rest_advance, next, List.drop_left]

theorem advance_add
    (cursor : Cursor)
    (first second : Nat) :
    cursor.advance (first + second) =
      (cursor.advance first).advance second := by
  induction first generalizing cursor with
  | zero => rw [Nat.zero_add, advance_zero]
  | succ first induction =>
      cases next : cursor.rest with
      | nil => simp only [advance_of_rest_eq_nil next]
      | cons character rest =>
          rw [Nat.add_right_comm, advance_succ next, advance_succ next, induction]

/-! ## What is left of a text -/

theorem advance_suffix
    (cursor : Cursor)
    (count : Nat) :
    (cursor.advance count).rest <:+ cursor.rest := by
  rw [rest_advance]
  exact List.drop_suffix count cursor.rest

theorem spanWhile_suffix
    (cursor : Cursor)
    (test : Char → Bool) :
    (cursor.spanWhile test).2.rest <:+ cursor.rest :=
  cursor.advance_suffix _

/-- What comes next of a class, and what is left behind it. -/
theorem spanWhile_append
    (cursor : Cursor)
    (test : Char → Bool) :
    (cursor.spanWhile test).1 ++ (cursor.spanWhile test).2.rest = cursor.rest := by
  have whole : cursor.rest = cursor.rest.takeWhile test ++ cursor.rest.dropWhile test :=
    List.takeWhile_append_dropWhile.symm
  rw [spanWhile, rest_advance_length whole, ← whole]

theorem skipSpaces_suffix
    (cursor : Cursor) :
    cursor.skipSpaces.rest <:+ cursor.rest :=
  cursor.spanWhile_suffix _

theorem skipLine_suffix
    (cursor : Cursor) :
    cursor.skipLine.rest <:+ cursor.rest :=
  cursor.spanWhile_suffix _

theorem lineBreak?_suffix
    {cursor next : Cursor}
    {character : Char}
    (found : cursor.lineBreak? = some (character, next)) :
    next.rest <:+ cursor.rest := by
  unfold lineBreak? at found
  split at found
  · cases found
  · rename_i first rest before
    split at found
    · cases found
      rw [rest_step, before]
      exact List.suffix_cons first rest
    · cases found

theorem skipLineBreak_suffix
    (cursor : Cursor) :
    cursor.skipLineBreak.rest <:+ cursor.rest := by
  unfold skipLineBreak
  split
  · rename_i found
    exact lineBreak?_suffix found
  · exact List.suffix_refl _

/-! ## Along a line -/

theorem line_step
    (cursor : Cursor)
    {character : Char}
    (inline : isBreak character = false)
    (rest : List Char) :
    (cursor.step character rest).line = cursor.line := by
  rw [step, if_neg (by simp [inline])]
  split <;> rfl

theorem column_step
    (cursor : Cursor)
    {character : Char}
    (inline : isBreak character = false)
    (rest : List Char) :
    cursor.column ≤ (cursor.step character rest).column := by
  rw [step, if_neg (by simp [inline])]
  split
  · exact Nat.le_refl _
  · exact Nat.le_succ _

theorem index_step
    (cursor : Cursor)
    (character : Char)
    (rest : List Char) :
    (cursor.step character rest).index = cursor.index + 1 := by
  unfold step
  split
  · rfl
  · split <;> rfl

/-- On a line, a cursor keeps its line, and its column does not shrink. -/
theorem advance_inline
    {text rest : List Char}
    (inline : ∀ character ∈ text, isBreak character = false)
    {cursor : Cursor}
    (next : cursor.rest = text ++ rest) :
    (cursor.advance text.length).line = cursor.line ∧
      cursor.column ≤ (cursor.advance text.length).column ∧
      (cursor.advance text.length).index = cursor.index + text.length := by
  induction text generalizing cursor with
  | nil => exact ⟨rfl, Nat.le_refl _, rfl⟩
  | cons character text induction =>
      have here := inline character List.mem_cons_self
      have ⟨line, column, index⟩ := induction
        (fun other member => inline other (List.mem_cons_of_mem _ member))
        (rest_step cursor character (text ++ rest))
      rw [List.cons_append] at next
      rw [List.length_cons, advance_succ next]
      refine ⟨?_, ?_, ?_⟩
      · rw [line, line_step cursor here]
      · exact Nat.le_trans (column_step cursor here _) column
      · rw [index, index_step, Nat.add_assoc, Nat.add_comm 1]

theorem column_advance_spaces
    (count : Nat)
    {rest : List Char}
    {cursor : Cursor}
    (next : cursor.rest = List.replicate count ' ' ++ rest) :
    (cursor.advance count).column = cursor.column + count := by
  induction count generalizing cursor with
  | zero => rfl
  | succ count induction =>
      rw [List.replicate_succ, List.cons_append] at next
      rw [advance_succ next, induction (rest_step _ _ _)]
      simp only [step, isBreak]
      simp
      omega

/-- Behind a line break, the column is the number of spaces. -/
theorem column_advance_newLine
    {lineBreak : Char}
    (breaks : isBreak lineBreak = true)
    (count : Nat)
    {rest : List Char}
    {cursor : Cursor}
    (next : cursor.rest = lineBreak :: (List.replicate count ' ' ++ rest)) :
    (cursor.advance (count + 1)).column = count := by
  rw [advance_succ next, column_advance_spaces count (rest_step _ _ _), step, if_pos breaks]
  exact Nat.zero_add count

/-! ## What comes next -/

theorem spanWhile_eq
    (test : Char → Bool)
    {taken rest : List Char}
    (passes : ∀ character ∈ taken, test character = true)
    (stops : ∀ character ∈ rest.head?, test character = false)
    {cursor : Cursor}
    (next : cursor.rest = taken ++ rest) :
    cursor.spanWhile test = (taken, cursor.advance taken.length) := by
  have ends : rest.takeWhile test = [] := by
    cases rest with
    | nil => rfl
    | cons character rest =>
        exact List.takeWhile_cons_of_neg (by simpa using stops character rfl)
  have prefixed : cursor.rest.takeWhile test = taken := by
    rw [next, List.takeWhile_append_of_pos passes, ends, List.append_nil]
  rw [spanWhile, prefixed]

theorem lineBreak?_eq_none
    {cursor : Cursor}
    (inline : ∀ character ∈ cursor.rest.head?, isBreak character = false) :
    cursor.lineBreak? = none := by
  unfold lineBreak?
  split
  · rfl
  · rename_i character rest next
    rw [next] at inline
    rw [if_neg (by simpa using inline character rfl)]

theorem lineBreak?_eq_some
    {cursor : Cursor}
    {character : Char}
    {rest : List Char}
    (next : cursor.rest = character :: rest)
    (breaks : isBreak character = true) :
    cursor.lineBreak? = some (unifiedBreak character, cursor.advance 1) := by
  rw [lineBreak?, next]
  simp only [breaks, ↓reduceIte]
  rw [advance_succ next, advance_zero]

end Delimit.Yaml.Cursor
