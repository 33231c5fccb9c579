import Delimit.Proofs.BlockReading
import Delimit.Proofs.SessionUnits

/-!
# Splitting is incremental

Lines can be split as they come in.  The units that a splitter hands over while it
reads are final, whatever lines follow; only the unit that it makes of pending input
at the end is not.  And where nothing is pending, a splitter has nothing left of the
lines it has read but their number and the number of their units: it goes on like
a new one, and its units are those of a new one, numbered on.
-/

namespace Delimit

namespace UnitRecord

/-- A unit that comes behind a number of units and a number of lines. -/
def behind
    (units lines : Nat)
    (unit : UnitRecord) :
    UnitRecord :=
  { unit with
    index := unit.index + units
    firstLine := unit.firstLine + lines
    lastLine := unit.lastLine + lines }

/-- Whether the last of some units is incomplete. -/
def endsPending
    (units : List UnitRecord) :
    Bool :=
  units.getLast?.any (·.status == .incomplete)

/-- Some units without the last one, if that is incomplete. -/
def closed
    (units : List UnitRecord) :
    List UnitRecord :=
  if endsPending units then units.dropLast else units

theorem endsPending_eq_false
    {units : List UnitRecord}
    (final : ∀ unit ∈ units, unit.status ≠ .incomplete) :
    endsPending units = false := by
  rw [endsPending, Option.any_eq_false]
  intro unit last
  simpa using final unit (List.mem_of_getLast? last)

/-- Only a unit at the end can be pending. -/
theorem closed_append_toList
    {units : List UnitRecord}
    (final : ∀ unit ∈ units, unit.status ≠ .incomplete)
    {last : Option UnitRecord}
    (pending : ∀ unit ∈ last, unit.status = .incomplete) :
    closed (units ++ last.toList) = units ∧
      endsPending (units ++ last.toList) = last.isSome := by
  cases last with
  | none =>
      rw [Option.toList_none, List.append_nil, closed,
        endsPending_eq_false final]
      exact ⟨rfl, rfl⟩
  | some unit =>
      have ends : endsPending (units ++ [unit]) = true := by
        rw [endsPending, List.getLast?_concat]
        simpa using pending unit rfl
      rw [Option.toList_some, closed, ends, if_pos rfl, List.dropLast_concat]
      exact ⟨rfl, rfl⟩

end UnitRecord

namespace Splitter

/-! ## What a splitter keeps account of -/

/-- How a line moves a splitter on. -/
structure Advances
    (splitter : Splitter)
    (units : List UnitRecord)
    (lines : Nat)
    (next : Splitter) :
    Prop where
  /-- The units that are handed over have ended. -/
  final : ∀ unit ∈ units, unit.status ≠ .incomplete
  index : next.index = splitter.index + units.length
  lineNumber : next.lineNumber = splitter.lineNumber + lines
  policy : next.validator.policy = splitter.validator.policy
  reachable : splitter.validator.Reachable → next.validator.Reachable

theorem advances_feed
    (splitter : Splitter)
    (raw : List Char) :
    splitter.Advances (splitter.feed raw).1.toList 1 (splitter.feed raw).2 := by
  have reachable : splitter.validator.Reachable →
      (splitter.feed raw).2.validator.Reachable :=
    fun reachable => reachable.feed raw
  revert reachable
  unfold feed
  dsimp only
  split
  · exact fun reachable => ⟨by simp, rfl, rfl, rfl, reachable⟩
  · rename_i final
    split
    · exact fun reachable => ⟨by simp, rfl, rfl, rfl, reachable⟩
    · exact fun reachable => ⟨by simpa using final, rfl, rfl, rfl, reachable⟩

theorem Advances.trans
    {first second third : Splitter}
    {units later : List UnitRecord}
    {lines more : Nat}
    (one : first.Advances units lines second)
    (two : second.Advances later more third) :
    first.Advances (units ++ later) (lines + more) third where
  final := by
    intro unit member
    rcases List.mem_append.mp member with early | late
    · exact one.final unit early
    · exact two.final unit late
  index := by
    rw [two.index, one.index, List.length_append, Nat.add_assoc]
  lineNumber := by rw [two.lineNumber, one.lineNumber, Nat.add_assoc]
  policy := by rw [two.policy, one.policy]
  reachable := fun reachable => two.reachable (one.reachable reachable)

theorem advances_read
    (splitter : Splitter)
    (lines : List (List Char)) :
    splitter.Advances (splitter.read lines).1 lines.length
      (splitter.read lines).2 := by
  induction lines generalizing splitter with
  | nil => exact ⟨by simp [read], rfl, rfl, rfl, id⟩
  | cons raw lines induction =>
      rw [List.length_cons, Nat.add_comm]
      exact (splitter.advances_feed raw).trans (induction _)

theorem status_finish
    (splitter : Splitter) :
    ∀ unit ∈ splitter.finish.1, unit.status = .incomplete := by
  unfold finish
  split
  · rintro unit ⟨rfl⟩
    rfl
  · rintro unit ⟨⟩

theorem isSome_finish
    (splitter : Splitter) :
    splitter.finish.1.isSome = splitter.validator.isPending := by
  unfold finish
  split
  · rename_i pending
    rw [pending]
    rfl
  · rename_i idle
    rw [Bool.not_eq_true] at idle
    rw [idle]
    rfl

/-- The units that are handed over while lines are read are all but a pending one. -/
theorem closed_units
    (splitter : Splitter)
    (lines : List (List Char)) :
    UnitRecord.closed (splitter.units lines).1 = (splitter.read lines).1 ∧
      UnitRecord.endsPending (splitter.units lines).1 =
        (splitter.read lines).2.validator.isPending := by
  rw [units_eq, ← isSome_finish]
  exact UnitRecord.closed_append_toList (splitter.advances_read lines).final
    (status_finish _)

/-! ## A unit under way -/

section

variable
    {splitter : Splitter}
    (reachable : splitter.validator.Reachable)
    (something : splitter.validator.stack.topFirst ≠ [])
    {raw : List Char}

include reachable something

/-- While something is open, a line is read into the unit that is under way. -/
theorem feed_of_incomplete
    (incomplete :
      (splitter.validator.validate (Text.dropLineEnd raw)).1 = .incomplete) :
    splitter.feed raw =
      (none,
        { splitter with
          validator := (splitter.validator.validate (Text.dropLineEnd raw)).2
          lineNumber := splitter.lineNumber + 1 }) := by
  simp only [feed, reachable.isEmpty_input something, incomplete, Bool.false_eq_true,
    if_false, if_true]

/-- A line that ends the unit under way hands it over, since it is no blank one. -/
theorem feed_of_final
    (final : (splitter.validator.validate (Text.dropLineEnd raw)).1 ≠ .incomplete) :
    splitter.feed raw =
      (some
        { index := splitter.index
          firstLine := splitter.firstLine
          lastLine := splitter.lineNumber + 1
          status := (splitter.validator.validate (Text.dropLineEnd raw)).1
          text := (splitter.validator.validate (Text.dropLineEnd raw)).2.input },
        { validator := (splitter.validator.validate (Text.dropLineEnd raw)).2.reset
          index := splitter.index + 1
          firstLine := splitter.firstLine
          lineNumber := splitter.lineNumber + 1 }) := by
  have visible := reachable.isAllBlank_validate something (Text.dropLineEnd raw)
  simp only [feed, reachable.isEmpty_input something, final, Validator.takeInput,
    isDropped, visible, Bool.and_false, Bool.false_eq_true, if_false]

/-- When the lines run out, the unit under way is handed over as it is. -/
theorem finish_of_open :
    splitter.finish.1 = some
      { index := splitter.index
        firstLine := splitter.firstLine
        lastLine := max splitter.lineNumber splitter.firstLine
        status := .incomplete
        text := splitter.validator.input } := by
  have pending : splitter.validator.isPending = true := by
    rw [reachable.isPending_eq, reachable.isEmpty_input something]
    rfl
  simp only [finish, pending, if_true, Validator.takeInput]

end

/-! ## Going on behind other lines -/

/-- A splitter that has a number of units and a number of lines behind it. -/
def behind
    (units lines : Nat)
    (splitter : Splitter) :
    Splitter :=
  { splitter with
    index := splitter.index + units
    firstLine := splitter.firstLine + lines
    lineNumber := splitter.lineNumber + lines }

theorem feed_behind
    (before lines : Nat)
    (splitter : Splitter)
    (raw : List Char) :
    (splitter.behind before lines).feed raw =
      ((splitter.feed raw).1.map (UnitRecord.behind before lines),
        (splitter.feed raw).2.behind before lines) := by
  have number : splitter.lineNumber + lines + 1 =
      splitter.lineNumber + 1 + lines := by omega
  have first : (if splitter.validator.input.isEmpty then
        splitter.lineNumber + 1 + lines
      else
        splitter.firstLine + lines) =
      (if splitter.validator.input.isEmpty then
        splitter.lineNumber + 1
      else
        splitter.firstLine) + lines := by
    split <;> rfl
  have index : splitter.index + before + 1 = splitter.index + 1 + before := by
    omega
  simp only [feed, behind, number, first]
  split
  · rfl
  · split
    · rfl
    · simp only [index]
      rfl

theorem finish_behind
    (before lines : Nat)
    (splitter : Splitter) :
    (splitter.behind before lines).finish.1 =
      splitter.finish.1.map (UnitRecord.behind before lines) := by
  have last : max (splitter.lineNumber + lines) (splitter.firstLine + lines) =
      max splitter.lineNumber splitter.firstLine + lines :=
    Nat.add_max_add_right ..
  simp only [finish, behind, last]
  split <;> rfl

/-- What lies behind a splitter counts in the numbers of its units and nowhere else. -/
theorem units_behind
    (before lines : Nat)
    (splitter : Splitter)
    (rest : List (List Char)) :
    ((splitter.behind before lines).units rest).1 =
      (splitter.units rest).1.map (UnitRecord.behind before lines) := by
  induction rest generalizing splitter with
  | nil =>
      simp only [units, finish_behind]
      cases splitter.finish.1 <;> rfl
  | cons raw rest induction =>
      simp only [units, feed_behind, induction, List.map_append]
      cases (splitter.feed raw).1 <;> rfl

/-- Where nothing is pending, it does not matter which line the last unit began on. -/
theorem units_of_idle
    {splitter : Splitter}
    (idle : splitter.validator.isPending = false)
    (firstLine : Nat)
    (rest : List (List Char)) :
    ({ splitter with firstLine }.units rest).1 = (splitter.units rest).1 := by
  have empty : splitter.validator.input.isEmpty = true := by
    rw [Validator.isPending, Bool.or_eq_false_iff] at idle
    simpa using idle.1
  cases rest with
  | nil => simp [units, finish, idle]
  | cons raw rest => simp [units, feed, empty]

end Splitter

/-- A validator with nothing pending is as good as new. -/
theorem Validator.eq_new_of_idle
    {validator : Validator}
    (idle : validator.isPending = false) :
    validator = .new validator.policy := by
  rcases validator with ⟨policy, input, ⟨entries⟩⟩
  simp only [isPending, expectedIndent, Stack.depth, Bool.or_eq_false_iff,
    Bool.not_eq_false', List.isEmpty_iff, bne_eq_false_iff_eq,
    List.length_eq_zero_iff] at idle
  rcases idle with ⟨rfl, rfl⟩
  rfl

namespace Splitter

/-- A splitter with a new validator. -/
def new
    (policy : Policy) :
    Splitter :=
  { validator := Validator.new policy }

/-- Where nothing is pending, lines that follow are split as if by a new splitter. -/
theorem units_of_read
    {policy : Policy}
    {lines : List (List Char)}
    (idle : ((new policy).read lines).2.validator.isPending = false)
    (rest : List (List Char)) :
    (((new policy).read lines).2.units rest).1 =
      ((new policy).units rest).1.map
        (UnitRecord.behind ((new policy).read lines).1.length lines.length) := by
  have advances := (new policy).advances_read lines
  generalize (new policy).read lines = answer at advances idle
  rcases answer with ⟨handed, ⟨validator, index, firstLine, lineNumber⟩⟩
  have fresh := Validator.eq_new_of_idle idle
  have sameIndex : index = 0 + handed.length := advances.index
  have sameNumber : lineNumber = 0 + lines.length := advances.lineNumber
  have samePolicy : validator.policy = policy := advances.policy
  rw [← units_behind, ← units_of_idle idle (1 + lines.length), fresh, samePolicy,
    sameIndex, sameNumber]
  rfl

end Splitter

/--
The units of lines, but for a pending one, are the first units of the lines together
with any that follow.  If none is pending, the units of the lines that follow come
next, numbered on behind the units and the lines before them.
-/
theorem splitUnits_append
    (policy : Policy)
    (first second : List (List Char)) :
    let units := fun lines => (splitUnits (Validator.new policy) lines).1
    UnitRecord.closed (units first) <+: units (first ++ second) ∧
      (UnitRecord.endsPending (units first) = false →
        units (first ++ second) =
          units first ++ (units second).map
            (UnitRecord.behind (units first).length first.length)) := by
  intro units
  have handed := (Splitter.new policy).closed_units first
  have split : units (first ++ second) =
      ((Splitter.new policy).read first).1 ++
        (((Splitter.new policy).read first).2.units second).1 :=
    (Splitter.new policy).units_append first second
  constructor
  · rw [split, ← handed.1]
    exact List.prefix_append _ _
  · intro closed
    have same : ((Splitter.new policy).read first).1 = units first := by
      rw [← handed.1]
      exact if_neg (Bool.not_eq_true _ ▸ closed)
    rw [split, Splitter.units_of_read (handed.2.symm.trans closed), same]
    rfl

/-- A unit of two lines, a blank line, a spliced literal and a mismatch. -/
def closedLines : List (List Char) :=
  ["f(\r\n".toList, ");".toList, " ".toList, "\"a\\".toList, "b\"]".toList]

/-- A unit of one line and a comment that stays open. -/
def openLines : List (List Char) :=
  ["g()".toList, "[ /*".toList, ")".toList]

/-- Behind the closed lines, the units of the open lines are numbered on. -/
theorem splitUnits_closedLines_append_openLines :
    let units := fun lines => (splitUnits (Validator.new {}) lines).1
    UnitRecord.endsPending (units closedLines) = false ∧
      units (closedLines ++ openLines) =
        units closedLines ++ (units openLines).map (UnitRecord.behind 2 5) := by
  have closed : UnitRecord.endsPending
      (splitUnits (Validator.new {}) closedLines).1 = false := by
    decide +kernel
  have count : (splitUnits (Validator.new {}) closedLines).1.length = 2 := by
    decide +kernel
  have numbered := (splitUnits_append {} closedLines openLines).2 closed
  dsimp only at numbered
  rw [count] at numbered
  exact ⟨closed, numbered⟩

end Delimit
