import Delimit.Proofs.Segmentation

/-!
# The partition of lines into units

The units that a splitter hands over cover its lines in order, without overlap, and
leave out blank lines only.  They are indexed from zero, no unit but the last is
incomplete, and each of them is what a new validator makes of its lines alone.
-/

namespace Delimit

/-- The lines from a first to a last number, counted from 1. -/
def linesBetween
    (lines : List (List Char))
    (first last : Nat) :
    List (List Char) :=
  (lines.take last).drop (first - 1)

/-- Whether a unit covers the line with a number. -/
def UnitRecord.Covers
    (unit : UnitRecord)
    (number : Nat) :
    Prop :=
  unit.firstLine ≤ number ∧ number ≤ unit.lastLine

/-- How units partition lines. -/
structure Partitions
    (policy : Policy)
    (lines : List (List Char))
    (units : List UnitRecord) :
    Prop where
  /-- The units are indexed from zero. -/
  indices : units.map (·.index) = List.range units.length
  /-- A unit covers at least one line, and only lines that exist. -/
  inside : ∀ unit ∈ units,
    1 ≤ unit.firstLine ∧ unit.firstLine ≤ unit.lastLine ∧
      unit.lastLine ≤ lines.length
  /-- A unit ends before every later one begins. -/
  apart : units.Pairwise fun earlier later => earlier.lastLine < later.firstLine
  /-- A line that no unit covers is blank without its line end. -/
  uncovered : ∀ offset line, lines[offset]? = some line →
    (∀ unit ∈ units, ¬ unit.Covers (offset + 1)) →
      Text.isAllBlank (Text.dropLineEnd line) = true
  /-- An incomplete unit is the last one and ends with the last line. -/
  incomplete : ∀ earlier unit later, units = earlier ++ unit :: later →
    unit.status = .incomplete → later = [] ∧ unit.lastLine = lines.length
  /-- A new validator makes the same of the lines of a unit alone. -/
  assembles : ∀ unit ∈ units,
    Assembles policy
      ((linesBetween lines unit.firstLine unit.lastLine).map Text.dropLineEnd)
      unit.status unit.text

namespace Segmentation

variable {policy : Policy} {start index : Nat}
variable {lines : List (List Char)} {units : List UnitRecord}

theorem map_index
    (segmentation : Segmentation policy start index lines units) :
    units.map (·.index) = List.range' index units.length := by
  induction segmentation with
  | done => rfl
  | blank blank rest induction => exact induction
  | unit some final assembles rest induction =>
      rw [List.map_cons, induction, List.length_cons, List.range'_succ]
  | pending some assembles => rfl

theorem bounds
    (segmentation : Segmentation policy start index lines units) :
    ∀ unit ∈ units, start < unit.firstLine ∧ unit.firstLine ≤ unit.lastLine ∧
      unit.lastLine ≤ start + lines.length := by
  induction segmentation with
  | done => simp
  | blank blank rest induction =>
      intro unit member
      have := induction unit member
      rw [List.length_cons]
      omega
  | @unit start index block lines units status text some final assembles rest
      induction =>
      have := List.length_pos_iff.mpr some
      intro unit member
      rw [List.length_append]
      rcases List.mem_cons.mp member with rfl | later
      · dsimp only
        omega
      · have := induction unit later
        omega
  | @pending start index block text some assembles =>
      have := List.length_pos_iff.mpr some
      intro unit member
      rw [List.mem_singleton.mp member]
      dsimp only
      omega

theorem pairwise
    (segmentation : Segmentation policy start index lines units) :
    units.Pairwise fun earlier later => earlier.lastLine < later.firstLine := by
  induction segmentation with
  | done => exact .nil
  | blank blank rest induction => exact induction
  | unit some final assembles rest induction =>
      exact .cons (fun later member => (rest.bounds later member).1) induction
  | pending some assembles => exact List.pairwise_singleton _ _

theorem isAllBlank_of_uncovered
    (segmentation : Segmentation policy start index lines units)
    {offset : Nat}
    {line : List Char}
    (found : lines[offset]? = some line)
    (uncovered : ∀ unit ∈ units, ¬ unit.Covers (start + offset + 1)) :
    Text.isAllBlank (Text.dropLineEnd line) = true := by
  induction segmentation generalizing offset with
  | done => cases found
  | @blank start index first lines units blank rest induction =>
      cases offset with
      | zero =>
          cases found
          exact blank
      | succ offset =>
          apply induction found
          intro unit member covers
          apply uncovered unit member
          rwa [Nat.add_right_comm start 1 offset, Nat.add_assoc start] at covers
  | @unit start index block lines units status text some final assembles rest
      induction =>
      have first := uncovered _ (List.mem_cons_self ..)
      have behind : block.length ≤ offset := by
        simp only [UnitRecord.Covers] at first
        omega
      -- The block covers its own lines, so the line is one of the rest.
      rw [List.getElem?_append_right behind] at found
      apply induction found
      intro unit member covers
      apply uncovered unit (List.mem_cons_of_mem _ member)
      have number : start + block.length + (offset - block.length) + 1 =
          start + offset + 1 := by omega
      rwa [number] at covers
  | @pending start index block text some assembles =>
      have first := uncovered _ (List.mem_cons_self ..)
      have inside := (List.getElem?_eq_some_iff.mp found).1
      simp only [UnitRecord.Covers] at first
      omega

theorem of_incomplete
    (segmentation : Segmentation policy start index lines units)
    {earlier later : List UnitRecord}
    {unit : UnitRecord}
    (split : units = earlier ++ unit :: later)
    (incomplete : unit.status = .incomplete) :
    later = [] ∧ unit.lastLine = start + lines.length := by
  induction segmentation generalizing earlier with
  | done => simp at split
  | blank blank rest induction =>
      rcases induction split with ⟨last, number⟩
      refine ⟨last, ?_⟩
      rw [number, List.length_cons]
      omega
  | @unit start index block lines units status text some final assembles rest
      induction =>
      cases earlier with
      | nil =>
          rcases List.cons.inj split with ⟨rfl, -⟩
          exact (final incomplete).elim
      | cons first earlier =>
          rcases induction (List.cons.inj split).2 with ⟨last, number⟩
          refine ⟨last, ?_⟩
          rw [number, List.length_append]
          omega
  | pending some assembles =>
      cases earlier with
      | nil =>
          rcases List.cons.inj split with ⟨rfl, rfl⟩
          exact ⟨rfl, rfl⟩
      | cons first earlier => simp at split

theorem linesBetween_append
    {block : List (List Char)}
    {first last : Nat}
    (behind : block.length < first)
    (ordered : first ≤ last)
    (lines : List (List Char)) :
    linesBetween (block ++ lines) first last =
      linesBetween lines (first - block.length) (last - block.length) := by
  have before : block.length ≤ first - 1 := by omega
  have same : first - 1 - block.length = first - block.length - 1 := by omega
  rw [linesBetween, linesBetween, List.take_append, List.drop_append,
    List.take_of_length_le (by omega), List.drop_eq_nil_of_le before,
    List.nil_append, same]

theorem assembles_linesBetween
    (segmentation : Segmentation policy start index lines units) :
    ∀ unit ∈ units, Assembles policy
      ((linesBetween lines (unit.firstLine - start)
        (unit.lastLine - start)).map Text.dropLineEnd)
      unit.status unit.text := by
  induction segmentation with
  | done => simp
  | @blank start index first lines units blank rest induction =>
      intro unit member
      have bounds := rest.bounds unit member
      have behind := @linesBetween_append [first] (unit.firstLine - start)
        (unit.lastLine - start) (by simp; omega) (by omega) lines
      rw [List.singleton_append, List.length_singleton, Nat.sub_sub,
        Nat.sub_sub] at behind
      rw [behind]
      exact induction unit member
  | @unit start index block lines units status text some final assembles rest
      induction =>
      intro unit member
      rcases List.mem_cons.mp member with rfl | later
      · have whole : linesBetween (block ++ lines) 1 block.length = block := by
          simp [linesBetween]
        simpa [whole] using assembles
      · have bounds := rest.bounds unit later
        rw [linesBetween_append (by omega) (by omega), Nat.sub_sub, Nat.sub_sub]
        exact induction unit later
  | @pending start index block text some assembles =>
      intro unit member
      have whole : linesBetween block 1 block.length = block := by
        simp [linesBetween]
      rw [List.mem_singleton.mp member]
      simpa [whole] using assembles

end Segmentation

/--
Under every policy, the units that a splitter with a new validator makes of lines
partition the lines.
-/
theorem partitions_splitUnits
    (policy : Policy)
    (lines : List (List Char)) :
    Partitions policy lines (splitUnits (Validator.new policy) lines).1 := by
  have idle : Splitter.Holds ⟨Validator.new policy, 0, 1, 0⟩ policy 0 [] :=
    ⟨rfl, Validator.suspends_nil policy, rfl, absurd rfl⟩
  have segmentation : Segmentation policy 0 0 lines
      (splitUnits (Validator.new policy) lines).1 := idle.units
  refine ⟨?_, ?_, segmentation.pairwise, ?_, ?_, ?_⟩
  · rw [segmentation.map_index, List.range_eq_range']
  · intro unit member
    have bounds := segmentation.bounds unit member
    omega
  · intro offset line found uncovered
    apply segmentation.isAllBlank_of_uncovered found
    rwa [Nat.zero_add]
  · intro earlier unit later split incomplete
    rcases segmentation.of_incomplete split incomplete with ⟨last, number⟩
    exact ⟨last, by rw [number, Nat.zero_add]⟩
  · exact segmentation.assembles_linesBetween

end Delimit
