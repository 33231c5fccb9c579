import Delimit.Proofs.IncrementalSplitting
import Delimit.Proofs.StoredTranscripts

/-!
# Splitting with a validator that is under way

A splitter can be handed a validator that already holds input.  It goes on with the unit
that is under way and counts its lines from line 1 on, so its units are those of all
lines together: the first one keeps its index, status and text and ends as many lines
earlier as were read before, and all later ones move up by as many lines.

Whatever validator it is handed, a splitter numbers its units from zero, and no unit
ends before it begins.  In the end it leaves the validator as good as new.
-/

namespace Delimit

namespace UnitRecord

/-- A unit that a number of lines no longer come before. -/
def ahead
    (lines : Nat)
    (unit : UnitRecord) :
    UnitRecord :=
  { unit with
    firstLine := unit.firstLine - lines
    lastLine := unit.lastLine - lines }

/-- A unit of which a number of lines were read before lines were counted. -/
def underWay
    (lines : Nat)
    (unit : UnitRecord) :
    UnitRecord :=
  { unit with
    firstLine := 1
    lastLine := max 1 (unit.lastLine - lines) }

theorem ahead_behind
    (lines : Nat)
    (unit : UnitRecord) :
    (unit.behind 0 lines).ahead lines = unit := by
  simp [ahead, behind]

/--
The units of all lines, and the units that are left of them when a number of lines were
read before.
-/
inductive HandedOver (lines : Nat) : List UnitRecord → List UnitRecord → Prop where
  /-- The first unit is under way, and the others come behind all the lines. -/
  | intro {first : UnitRecord} {later : List UnitRecord}
      (behind : ∀ unit ∈ later, lines < unit.firstLine) :
      HandedOver lines (first :: later)
        (first.underWay lines :: later.map (ahead lines))

/-- Units that are numbered from an index on, none of which ends before it begins. -/
structure Numbered
    (index : Nat)
    (units : List UnitRecord) :
    Prop where
  indices : units.map (·.index) = List.range' index units.length
  ordered : ∀ unit ∈ units, unit.firstLine ≤ unit.lastLine

theorem Numbered.nil
    (index : Nat) :
    Numbered index [] :=
  ⟨rfl, nofun⟩

theorem Numbered.singleton
    {index : Nat}
    {unit : UnitRecord}
    (same : unit.index = index)
    (ordered : unit.firstLine ≤ unit.lastLine) :
    Numbered index [unit] :=
  ⟨congrArg ([·]) same, by simpa using ordered⟩

theorem Numbered.append
    {index : Nat}
    {first second : List UnitRecord}
    (one : Numbered index first)
    (two : Numbered (index + first.length) second) :
    Numbered index (first ++ second) where
  indices := by
    rw [List.map_append, one.indices, two.indices, List.length_append,
      ← List.range'_append_1]
  ordered := by
    intro unit member
    rcases List.mem_append.mp member with early | late
    · exact one.ordered unit early
    · exact two.ordered unit late

end UnitRecord

namespace Splitter

open UnitRecord (HandedOver Numbered)

/-! ## Every validator -/

/-- What a line hands over is numbered, and no unit begins behind the lines that were read. -/
theorem numbered_feed
    {splitter : Splitter}
    (begun : splitter.firstLine ≤ splitter.lineNumber + 1)
    (raw : List Char) :
    Numbered splitter.index (splitter.feed raw).1.toList ∧
      (splitter.feed raw).2.firstLine ≤ (splitter.feed raw).2.lineNumber := by
  have first : (if splitter.validator.input.isEmpty then
        splitter.lineNumber + 1
      else
        splitter.firstLine) ≤ splitter.lineNumber + 1 := by
    split
    · exact Nat.le_refl _
    · exact begun
  unfold feed
  dsimp only
  split
  · exact ⟨.nil _, first⟩
  · split
    · exact ⟨.nil _, first⟩
    · exact ⟨.singleton rfl first, first⟩

theorem numbered_finish
    (splitter : Splitter) :
    Numbered splitter.index splitter.finish.1.toList := by
  unfold finish
  split
  · exact .singleton rfl (Nat.le_max_right _ _)
  · exact .nil _

/-- A splitter numbers its units on from its index. -/
theorem numbered_units
    {splitter : Splitter}
    (begun : splitter.firstLine ≤ splitter.lineNumber + 1)
    (lines : List (List Char)) :
    Numbered splitter.index (splitter.units lines).1 := by
  induction lines generalizing splitter with
  | nil => exact splitter.numbered_finish
  | cons raw lines induction =>
      have fed := numbered_feed begun raw
      have index := (splitter.advances_feed raw).index
      have later := induction (Nat.le_succ_of_le fed.2)
      rw [index] at later
      exact fed.1.append later

theorem validator_finish
    (splitter : Splitter) :
    splitter.finish.2 = .new splitter.validator.policy := by
  unfold finish
  split
  · rfl
  · rename_i idle
    exact Validator.eq_new_of_idle (Bool.not_eq_true _ ▸ idle)

/-- When the lines have run out, the validator is as good as new. -/
theorem validator_units
    (splitter : Splitter)
    (lines : List (List Char)) :
    (splitter.units lines).2 = .new splitter.validator.policy := by
  induction lines generalizing splitter with
  | nil => exact splitter.validator_finish
  | cons raw lines induction =>
      rw [← (splitter.advances_feed raw).policy]
      exact induction _

/-! ## A validator under way -/

/-- Behind the first unit, splitters that began on different lines hand over the same. -/
theorem units_resumed
    (policy : Policy)
    (index number before : Nat)
    (lines : List (List Char)) :
    (units ⟨.new policy, index, 1, number + before⟩ lines).1 =
      (units ⟨.new policy, index, 1, number⟩ lines).1.map
        (UnitRecord.behind 0 before) := by
  have idle : (Validator.new policy).isPending = false := rfl
  rw [← units_behind]
  exact (@units_of_idle ⟨.new policy, index, 1, number + before⟩ idle (1 + before)
    lines).symm

/-- The first unit of a validator under way, and those that come behind it. -/
theorem handedOver_cons
    {unit : UnitRecord}
    {index number before : Nat}
    (policy : Policy)
    (lines : List (List Char)) :
    HandedOver before
      (unit :: (units ⟨.new policy, index, 1, number + before⟩ lines).1)
      (unit.underWay before ::
        (units ⟨.new policy, index, 1, number⟩ lines).1) := by
  have valid := @isValid_units ⟨.new policy, index, 1, number⟩ (Nat.le_refl 1) lines
  rw [units_resumed]
  generalize (units ⟨.new policy, index, 1, number⟩ lines).1 = later at valid ⊢
  have same : (later.map (UnitRecord.behind 0 before)).map
      (UnitRecord.ahead before) = later := by
    rw [List.map_map]
    exact (List.map_congr_left fun unit _ => UnitRecord.ahead_behind before unit).trans
      (List.map_id later)
  have handed : HandedOver before (unit :: later.map (UnitRecord.behind 0 before))
      (unit.underWay before ::
        (later.map (UnitRecord.behind 0 before)).map (UnitRecord.ahead before)) := by
    apply HandedOver.intro
    intro shifted member
    rcases List.mem_map.mp member with ⟨unit, inside, rfl⟩
    have counted := (valid unit inside).1
    simp only [UnitRecord.behind]
    omega
  rwa [same] at handed

/--
Two splitters with a validator under way, one of which has a number of lines behind it
that the other has not, hand over the same units but for the lines.
-/
theorem handedOver_units
    {validator : Validator}
    (reachable : validator.Reachable)
    (something : validator.stack.topFirst ≠ [])
    (index number before : Nat)
    (lines : List (List Char)) :
    HandedOver before
      (units ⟨validator, index, 1, number + before⟩ lines).1
      (units ⟨validator, index, 1, number⟩ lines).1 := by
  induction lines generalizing validator number with
  | nil =>
      have last : max number 1 = max 1 (max (number + before) 1 - before) := by omega
      have ended := fun place =>
        @finish_of_open ⟨validator, index, 1, place⟩ reachable something
      simp only [units, ended, last]
      exact .intro (List.forall_mem_nil _)
  | cons raw lines induction =>
      have further : number + before + 1 = number + 1 + before := Nat.add_right_comm ..
      by_cases incomplete : (validator.validate (Text.dropLineEnd raw)).1 = .incomplete
      · have fed := fun place =>
          @feed_of_incomplete ⟨validator, index, 1, place⟩ reachable something raw incomplete
        simp only [units, fed, further]
        exact induction (reachable.validate _)
          (Validator.stack_ne_empty_of_incomplete incomplete) (number + 1)
      · have last : number + 1 = max 1 (number + 1 + before - before) := by omega
        have handed := @handedOver_cons
          ⟨index, 1, number + 1 + before, (validator.validate (Text.dropLineEnd raw)).1,
            (validator.validate (Text.dropLineEnd raw)).2.input⟩
          (index + 1) (number + 1) before validator.policy lines
        simp only [UnitRecord.underWay, ← last] at handed
        have fed := fun place =>
          @feed_of_final ⟨validator, index, 1, place⟩ reachable something raw incomplete
        simp only [units, fed, further]
        exact handed

/-- A splitter that holds lines is made up of them and of what came before. -/
theorem Holds.eq_of_ne_nil
    {policy : Policy}
    {splitter : Splitter}
    {start : Nat}
    {held : List (List Char)}
    (holds : splitter.Holds policy start held)
    (some : held ≠ []) :
    splitter =
      ⟨(Validator.new policy).after (held.map Text.dropLineEnd), splitter.index,
        start + 1, start + held.length⟩ := by
  rw [← holds.validator, ← holds.lineNumber, ← holds.firstLine some]

end Splitter

/-- The units of lines, some of which a validator took before it was handed over. -/
theorem handedOver_splitUnits
    {policy : Policy}
    {before : List (List Char)}
    (some : before ≠ [])
    (suspends : Validator.Suspends policy (before.map Text.dropLineEnd))
    (lines : List (List Char)) :
    UnitRecord.HandedOver before.length
      (splitUnits (.new policy) (before ++ lines)).1
      (splitUnits ((Validator.new policy).after (before.map Text.dropLineEnd))
        lines).1 := by
  obtain ⟨nothing, index, holds⟩ :=
    (Splitter.holds_new policy).read_of_suspends suspends
  have whole : (splitUnits (.new policy) (before ++ lines)).1 =
      ((Splitter.read ⟨.new policy, 0, 1, 0⟩ before).2.units lines).1 := by
    rw [splitUnits, Splitter.units_append, nothing, List.nil_append]
  have opened := suspends.topFirst_ne_nil (by simpa using some)
  have handed := Splitter.handedOver_units ((Validator.Reachable.new policy).after _)
    opened 0 0 before.length lines
  rw [Nat.zero_add] at handed
  rw [whole, holds.eq_of_ne_nil some, index, Nat.zero_add, Nat.zero_add]
  exact handed

namespace Transcript.Schema

open Yaml (Value)

/-- The arguments that a unit is constructed from, which go by the inner names. -/
def argumentsOf
    (unit : UnitRecord) :
    Value :=
  .mapping
    [ (.text indexField.innerName.toList, .int unit.index),
      (.text firstLineField.innerName.toList, .int unit.firstLine),
      (.text lastLineField.innerName.toList, .int unit.lastLine),
      (.text statusField.innerName.toList, .text unit.status.label.toList),
      (.text textField.innerName.toList, .text unit.text) ]

/-- A valid unit is constructed from its arguments. -/
theorem readUnit_argumentsOf
    {unit : UnitRecord}
    (valid : unit.IsValid) :
    readUnit (argumentsOf unit) = .ok unit := by
  rw [argumentsOf, readUnit, readUnitEntries,
    indexField.read_of_find? rfl (readAtLeast_int (Nat.zero_le unit.index)),
    firstLineField.read_of_find? rfl (readAtLeast_int valid.1),
    lastLineField.read_of_find? rfl (readAtLeast_int valid.2),
    statusField.read_of_find? rfl (readVerdict_label unit.status),
    textField.read_of_find? rfl (readText_text unit.text)]
  rfl

end Transcript.Schema

/--
A validator that took lines after each of which something is open goes on with them: the
units of further lines are those of all lines, the first one from line 1 on and the
others ahead.  Whatever a validator holds, the units that it is used for are numbered
from zero on, begin on line 1 or later and end no earlier, so that each of them can be
constructed, and it is left without input and with nothing open.
-/
theorem splitUnits_of_validator :
    (∀ (policy : Policy) (before lines : List (List Char)),
      before ≠ [] →
      Validator.Suspends policy (before.map Text.dropLineEnd) →
        UnitRecord.HandedOver before.length
          (splitUnits (.new policy) (before ++ lines)).1
          (splitUnits ((Validator.new policy).after (before.map Text.dropLineEnd))
            lines).1) ∧
      ∀ (validator : Validator) (lines : List (List Char)),
        let units := (splitUnits validator lines).1
        let last := (splitUnits validator lines).2
        units.map (·.index) = List.range units.length ∧
          (∀ unit ∈ units,
            1 ≤ unit.firstLine ∧ unit.firstLine ≤ unit.lastLine ∧
              Transcript.Schema.readUnit (Transcript.Schema.argumentsOf unit) =
                .ok unit) ∧
          last.input = [] ∧ last.stack = .empty := by
  constructor
  · intro policy before lines some suspends
    exact handedOver_splitUnits some suspends lines
  · intro validator lines
    have numbered := @Splitter.numbered_units { validator } (Nat.le_refl 1) lines
    have valid := @Splitter.isValid_units { validator } (Nat.le_refl 1) lines
    have left := Splitter.validator_units { validator } lines
    refine ⟨?_, ?_, ?_, ?_⟩
    · rw [List.range_eq_range']
      exact numbered.indices
    · intro unit member
      exact ⟨(valid unit member).1, numbered.ordered unit member,
        Transcript.Schema.readUnit_argumentsOf (valid unit member)⟩
    · exact congrArg Validator.input left
    · exact congrArg Validator.stack left

/-- A bracket, a comment with a bracket counted in it, and the end of the comment. -/
def suspendingLines : List (List Char) :=
  ["f(\r\n".toList, "/* [".toList, "] */ \"a\\".toList]

/-- A literal goes on and everything is closed; a unit and a mismatch follow. -/
def resumingLines : List (List Char) :=
  ["b\")\n".toList, " ".toList, "\x7b".toList, "\x7d".toList, "]".toList]

theorem splitUnits_suspendingLines :
    suspendingLines ≠ [] ∧
      Validator.Suspends {} (suspendingLines.map Text.dropLineEnd) ∧
      UnitRecord.HandedOver 3
        (splitUnits (.new {}) (suspendingLines ++ resumingLines)).1
        (splitUnits ((Validator.new {}).after (suspendingLines.map Text.dropLineEnd))
          resumingLines).1 ∧
      (splitUnits (.new {}) (suspendingLines ++ resumingLines)).1.length = 3 := by
  have suspends : Validator.Suspends {} (suspendingLines.map Text.dropLineEnd) := by
    unfold Validator.Suspends
    decide +kernel
  exact ⟨nofun, suspends,
    splitUnits_of_validator.1 {} suspendingLines resumingLines nofun suspends,
    by decide +kernel⟩

end Delimit
