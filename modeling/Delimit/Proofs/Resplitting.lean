import Delimit.Proofs.BlockReading
import Delimit.Proofs.LogicalText

/-!
# Splitting the texts of units again

The text of a unit is not the lines that it was assembled from: a literal over
several lines stands on one, and blank lines between units are gone.  Still a new
validator takes the lines of the text as the same unit.  Each of them but the last
was once the whole text of a validator with something open, so none of them ends
the unit early.

A splitter that reads the joined texts of its own units therefore hands over the
same units, with the same statuses and texts in the same order.
-/

namespace Delimit

namespace Text

/-- No character of a text belongs to a line terminator. -/
def Unbroken
    (text : List Char) :
    Prop :=
  ∀ character ∈ text, isLineEnd character = false

instance
    (text : List Char) :
    Decidable (Unbroken text) :=
  List.decidableBAll (isLineEnd · = false) text

theorem Unbroken.lineFeed_notMem
    {text : List Char}
    (unbroken : Unbroken text) :
    '\n' ∉ text := by
  intro member
  have := unbroken '\n' member
  contradiction

theorem Unbroken.dropLineEnd_eq
    {text : List Char}
    (unbroken : Unbroken text) :
    dropLineEnd text = text := by
  rcases List.eq_nil_or_concat text with rfl | ⟨front, last, rfl⟩
  · rfl
  · rw [List.concat_eq_append] at unbroken ⊢
    have plain := unbroken last (by simp)
    simp [dropLineEnd, plain]

theorem map_dropLineEnd_of_unbroken
    {lines : List (List Char)}
    (unbroken : ∀ line ∈ lines, Unbroken line) :
    lines.map dropLineEnd = lines :=
  List.map_congr_left (fun line member => (unbroken line member).dropLineEnd_eq)
    |>.trans (List.map_id lines)

end Text

namespace Validator

variable {policy : Policy} {validator : Validator}
variable {settled lines : List (List Char)} {current line : List Char}

/-! ## Logical lines that end no unit -/

/-- While something is open, settled lines leave something open as well. -/
theorem Logical.validate_of_suspends
    (logical : Logical policy validator .incomplete settled current)
    (suspends : Suspends policy settled)
    (unbroken : '\n' ∉ line) :
    ∃ later latest, Suspends policy later ∧
      Logical policy (validator.validate line).2 (validator.validate line).1
        later latest := by
  rcases logical.validate unbroken with ⟨later, latest, front, next⟩
  have whole : Suspends policy (settled ++ [current]) :=
    suspends.concat (congrArg Prod.fst logical.agrees)
  exact ⟨later, latest, whole.of_prefix front, next⟩

theorem Logical.after_of_suspends
    (logical : Logical policy validator .incomplete settled current)
    (suspends : Suspends policy settled)
    (incomplete :
      validator.verdicts lines = List.replicate lines.length .incomplete)
    (unbroken : ∀ taken ∈ lines ++ [line], '\n' ∉ taken) :
    ∃ later latest, Suspends policy later ∧
      Logical policy ((validator.after lines).validate line).2
        ((validator.after lines).validate line).1 later latest := by
  induction lines generalizing validator settled current with
  | nil => exact logical.validate_of_suspends suspends (unbroken line (by simp))
  | cons first lines induction =>
      rw [verdicts, List.length_cons, List.replicate_succ, List.cons.injEq]
        at incomplete
      rcases logical.validate_of_suspends suspends (unbroken first (by simp))
        with ⟨later, latest, open_, next⟩
      rw [incomplete.1] at next
      apply induction next open_ incomplete.2
      intro taken member
      exact unbroken taken (List.mem_cons_of_mem _ member)

/-- The outcome of lines that leave something open reads in lines that do so too. -/
theorem Suspends.exists_logical
    (suspends : Suspends policy lines)
    (unbroken : ∀ taken ∈ lines ++ [line], '\n' ∉ taken) :
    ∃ settled current, Suspends policy settled ∧
      Logical policy (((new policy).after lines).validate line).2
        (((new policy).after lines).validate line).1 settled current := by
  cases lines with
  | nil =>
      exact ⟨[], line, suspends_nil policy,
        logical_first policy (unbroken line (by simp))⟩
  | cons first lines =>
      rw [Suspends, verdicts, List.length_cons, List.replicate_succ,
        List.cons.injEq] at suspends
      have begun := logical_first policy (unbroken first (by simp))
      rw [suspends.1] at begun
      apply begun.after_of_suspends (suspends_nil policy) suspends.2
      intro taken member
      exact unbroken taken (List.mem_cons_of_mem _ member)

/-! ## Line ends in the text -/

theorem mem_joinLine
    {continuesLiteral : Bool}
    {input line : List Char}
    {character : Char}
    (member : character ∈ joinLine continuesLiteral input line) :
    character ∈ input ∨ character ∈ line ∨ character ∈ ['\n', '\\', 'n'] := by
  unfold joinLine at member
  split at member
  · exact .inr (.inl member)
  · split at member
    · simp only [List.mem_append, List.mem_cons] at member
      rcases member with old | rfl | new
      · exact .inl old
      · simp
      · exact .inr (.inl new)
    · split at member
      · rcases List.mem_append.mp member with old | new
        · exact .inl (List.dropLast_subset _ old)
        · exact .inr (.inl new)
      · simp only [List.mem_append, List.mem_cons] at member
        rcases member with old | rfl | rfl | new
        · exact .inl old
        · simp
        · simp
        · exact .inr (.inl new)

/-- A line feed is the only line end in the text of lines without any. -/
theorem eq_lineFeed_of_mem_input_after
    (unbroken : ∀ taken ∈ lines, Text.Unbroken taken)
    (before : ∀ character ∈ validator.input,
      Text.isLineEnd character = true → character = '\n') :
    ∀ character ∈ (validator.after lines).input,
      Text.isLineEnd character = true → character = '\n' := by
  induction lines generalizing validator with
  | nil => exact before
  | cons first lines induction =>
      apply induction fun taken member =>
        unbroken taken (List.mem_cons_of_mem _ member)
      intro character member ends
      rw [input_validate] at member
      rcases mem_joinLine member with old | new | joint
      · exact before character old ends
      · have plain := unbroken first (by simp) character new
        rw [plain] at ends
        cases ends
      · simp only [List.mem_cons, List.not_mem_nil, or_false] at joint
        rcases joint with rfl | rfl | rfl
        · rfl
        · cases ends
        · cases ends

end Validator

/-- The text of a unit reads, line by line, as the same unit. -/
theorem Assembles.splitOn
    {policy : Policy}
    {block : List (List Char)}
    {status : Verdict}
    {text : List Char}
    (assembles : Assembles policy block status text)
    (unbroken : ∀ line ∈ block, Text.Unbroken line) :
    (∀ line ∈ text.splitOn '\n', Text.Unbroken line) ∧
      Assembles policy (text.splitOn '\n') status text := by
  have clean : ∀ line ∈ block, '\n' ∉ line :=
    fun line member => (unbroken line member).lineFeed_notMem
  have ends := @Validator.eq_lineFeed_of_mem_input_after (.new policy) block
    unbroken (by simp [Validator.new])
  rw [assembles.input] at ends
  rcases assembles.exists_concat with
    ⟨front, line, rfl, suspends, verdict, input⟩
  rcases suspends.exists_logical clean with
    ⟨settled, current, again, logical⟩
  rw [verdict] at logical
  have text_eq := input.symm.trans logical.text
  have lines : text.splitOn '\n' = settled ++ [current] := by
    rw [text_eq, Validator.splitOn_flatMap logical.unbroken]
  rw [lines]
  constructor
  · intro taken member character inside
    cases terminator : Text.isLineEnd character with
    | false => rfl
    | true =>
        have held : character ∈ text := by
          rw [text_eq]
          rcases List.mem_append.mp member with old | new
          · exact List.mem_append_left _
              (List.mem_flatMap.mpr ⟨taken, old, List.mem_append_left _ inside⟩)
          · exact List.mem_append_right _ (List.mem_singleton.mp new ▸ inside)
        rw [ends character held terminator] at inside
        exact (logical.unbroken taken member inside).elim
  · have assembled := again.assembles current
    rwa [logical.agrees, input] at assembled

/-! ## Joined texts -/

theorem splitOn_intercalate_eq_flatMap
    {texts : List (List Char)}
    (some : texts ≠ []) :
    (['\n'].intercalate texts).splitOn '\n' =
      texts.flatMap (·.splitOn '\n') := by
  induction texts with
  | nil => exact (some rfl).elim
  | cons text texts induction =>
      cases texts with
      | nil => simp
      | cons next texts =>
          rw [List.intercalate_cons_cons, List.append_assoc,
            List.singleton_append, List.splitOn_append_cons_self,
            induction (by simp)]
          rfl

/-- What a unit says, apart from the lines that it was assembled from. -/
def UnitRecord.outline
    (unit : UnitRecord) :
    Nat × Verdict × List Char :=
  (unit.index, unit.status, unit.text)

/-- The lines of the texts of units, which are joined by line feeds. -/
def linesOfTexts
    (units : List UnitRecord) :
    List (List Char) :=
  (['\n'].intercalate (units.map (·.text))).splitOn '\n'

theorem linesOfTexts_eq_flatMap
    {units : List UnitRecord}
    (some : units ≠ []) :
    linesOfTexts units = units.flatMap (·.text.splitOn '\n') := by
  rw [linesOfTexts, splitOn_intercalate_eq_flatMap (by simpa using some),
    List.flatMap_map]

/-- A splitter that reads the lines of the texts of units hands over these units. -/
theorem Segmentation.map_outline_units
    {policy : Policy}
    {start index : Nat}
    {lines : List (List Char)}
    {units : List UnitRecord}
    (segmentation : Segmentation policy start index lines units)
    (unbroken : ∀ line ∈ lines, Text.Unbroken (Text.dropLineEnd line))
    (kept : ∀ unit ∈ units, Splitter.isDropped unit.status unit.text = false)
    {splitter : Splitter}
    {begun : Nat}
    (holds : splitter.Holds policy begun [])
    (same : splitter.index = index) :
    (splitter.units (units.flatMap (·.text.splitOn '\n'))).1.map
      UnitRecord.outline = units.map UnitRecord.outline := by
  induction segmentation generalizing splitter begun with
  | done => rw [List.flatMap_nil, holds.units_nil]
  | blank blank rest induction =>
      apply induction _ kept holds same
      intro line member
      exact unbroken line (List.mem_cons_of_mem _ member)
  | @unit start index block lines units status text some final assembles rest
      induction =>
      have clean : ∀ line ∈ block.map Text.dropLineEnd, Text.Unbroken line := by
        intro line member
        rcases List.mem_map.mp member with ⟨raw, inside, rfl⟩
        exact unbroken raw (List.mem_append_left _ inside)
      rcases assembles.splitOn clean with ⟨plain, again⟩
      rw [← Text.map_dropLineEnd_of_unbroken plain] at again
      rcases holds.units_append (List.splitOn_ne_nil '\n' text) again final
          (kept _ (List.mem_cons_self ..)) with ⟨next, number, empty, read⟩
      have later := induction
        (fun line member => unbroken line (List.mem_append_right _ member))
        (fun unit member => kept unit (List.mem_cons_of_mem _ member))
        empty (by rw [number, same])
      simp only [List.flatMap_cons, read, List.map_cons, later,
        UnitRecord.outline, same]
  | @pending start index block text some assembles =>
      have clean : ∀ line ∈ block.map Text.dropLineEnd, Text.Unbroken line := by
        intro line member
        rcases List.mem_map.mp member with ⟨raw, inside, rfl⟩
        exact unbroken raw inside
      rcases assembles.splitOn clean with ⟨plain, again⟩
      rcases again.suspends with ⟨suspends, input⟩
      rw [← Text.map_dropLineEnd_of_unbroken plain] at suspends input
      have read := holds.units_of_suspends
        (.inr (List.splitOn_ne_nil '\n' text)) suspends
      simp only [List.nil_append] at read
      simp only [List.flatMap_singleton, read, input, List.map_singleton,
        UnitRecord.outline, same]

/--
Splitting is idempotent on its own output: the joined texts of the units of lines
are split into units with the same indices, statuses and texts.
-/
theorem map_outline_splitUnits_linesOfTexts
    (policy : Policy)
    {lines : List (List Char)}
    (unbroken : ∀ line ∈ lines, Text.Unbroken (Text.dropLineEnd line)) :
    let units := (splitUnits (Validator.new policy) lines).1
    let again := (splitUnits (Validator.new policy) (linesOfTexts units)).1
    again.map UnitRecord.outline = units.map UnitRecord.outline := by
  intro units again
  have segmentation : Segmentation policy 0 0 lines units :=
    segmentation_splitUnits policy lines
  have kept : ∀ unit ∈ units,
      Splitter.isDropped unit.status unit.text = false :=
    fun unit member => Splitter.isDropped_of_mem_units member
  by_cases some : units = []
  · -- The joined text is one empty line, which is dropped.
    have nothing : linesOfTexts units = [[]] := by
      rw [linesOfTexts, some]
      rfl
    have blank : Text.isAllBlank (Text.dropLineEnd []) = true := rfl
    rcases (Splitter.holds_new policy).feed_of_blank blank with
      ⟨next, fed, -, empty⟩
    have none : again = [] := by
      change (splitUnits (Validator.new policy) (linesOfTexts units)).1 = []
      rw [nothing, splitUnits, Splitter.units, fed]
      exact empty.units_nil
    rw [none, some]
  · have read := segmentation.map_outline_units unbroken kept
      (Splitter.holds_new policy) rfl
    rw [← linesOfTexts_eq_flatMap some] at read
    exact read

/-- A spliced literal, a blank line, a mismatch, and a comment that stays open. -/
def mixedLines : List (List Char) :=
  ["f(\"a\\\r\n".toList, "b\",\n".toList, "'c\n".toList, "d')\n".toList,
    " \n".toList, "(]\n".toList, "x /* y\n".toList]

/-- The texts of the units of the mixed lines are split into the same units. -/
theorem map_outline_splitUnits_mixedLines :
    (∀ line ∈ mixedLines, Text.Unbroken (Text.dropLineEnd line)) ∧
      let units := (splitUnits (Validator.new {}) mixedLines).1
      let again := (splitUnits (Validator.new {}) (linesOfTexts units)).1
      again.map UnitRecord.outline = units.map UnitRecord.outline := by
  have unbroken :
      ∀ line ∈ mixedLines, Text.Unbroken (Text.dropLineEnd line) := by
    decide +kernel
  exact ⟨unbroken, map_outline_splitUnits_linesOfTexts {} unbroken⟩

end Delimit
