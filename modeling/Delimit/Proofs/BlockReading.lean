import Delimit.Proofs.Segmentation

/-!
# Reading blocks of lines

A segmentation says how the units of a splitter cut its lines into blocks.  In the
other direction, a block that a new validator takes as one unit is read as that
unit: a splitter that holds no lines reads the block, hands over its unit and holds
no lines again, whatever comes behind the block.

Only a complete unit of nothing but blanks is dropped, and no unit that a splitter
hands over is one.
-/

namespace Delimit

/-- Where nothing is open, a blank line opens nothing. -/
theorem Scan.ofLine_empty_of_blank
    (policy : Policy)
    {line : List Char}
    (blank : Text.isAllBlank line = true) :
    ofLine policy .empty line = finished .empty :=
  (ofLine_ofCode policy [] line).trans
    (Halts.lineEnd (.blankEnd blank)).run_eq

namespace Validator

@[simp]
theorem length_verdicts
    (validator : Validator)
    (lines : List (List Char)) :
    (validator.verdicts lines).length = lines.length := by
  induction lines generalizing validator with
  | nil => rfl
  | cons line lines induction => exact congrArg (· + 1) (induction _)

theorem Suspends.of_prefix
    {policy : Policy}
    {earlier lines : List (List Char)}
    (suspends : Suspends policy lines)
    (front : earlier <+: lines) :
    Suspends policy earlier := by
  rcases front with ⟨later, rfl⟩
  rw [Suspends, verdicts_append, List.length_append,
    ← List.replicate_append_replicate] at suspends
  exact (List.append_inj suspends (by simp)).1

theorem fst_validate_new_of_blank
    (policy : Policy)
    {line : List Char}
    (blank : Text.isAllBlank line = true) :
    ((new policy).validate line).1 = .complete := by
  change verdictOf (Scan.ofLine policy .empty line) = .complete
  rw [Scan.ofLine_empty_of_blank policy blank]
  rfl

end Validator

namespace Assembles

variable {policy : Policy} {block : List (List Char)}
variable {status : Verdict} {text : List Char}

theorem ne_nil
    (assembles : Assembles policy block status text) :
    block ≠ [] := by
  rintro rfl
  have verdicts := assembles.verdicts
  rw [Validator.verdicts] at verdicts
  cases verdicts

/-- The last line of a block decides about it, and the others suspend a validator. -/
theorem exists_concat
    (assembles : Assembles policy block status text) :
    ∃ front line, block = front ++ [line] ∧
      Validator.Suspends policy front ∧
      (((Validator.new policy).after front).validate line).1 = status ∧
      (((Validator.new policy).after front).validate line).2.input = text := by
  rcases List.eq_nil_or_concat block with rfl | ⟨front, line, rfl⟩
  · exact (assembles.ne_nil rfl).elim
  · rw [List.concat_eq_append] at assembles ⊢
    have verdicts := assembles.verdicts
    have input := assembles.input
    rw [Validator.verdicts_concat, List.length_append, List.length_singleton,
      Nat.add_sub_cancel, List.append_singleton_inj] at verdicts
    rw [Validator.after_concat] at input
    exact ⟨front, line, rfl, verdicts.1, verdicts.2, input⟩

theorem suspends_of_prefix
    {earlier : List (List Char)}
    {later : List (List Char)}
    (assembles : Assembles policy (earlier ++ later) status text)
    (some : later ≠ []) :
    Validator.Suspends policy earlier := by
  rcases assembles.exists_concat with ⟨front, line, split, suspends, -, -⟩
  rcases List.eq_nil_or_concat later with rfl | ⟨later, last, rfl⟩
  · exact (some rfl).elim
  · rw [List.concat_eq_append, ← List.append_assoc] at split
    apply suspends.of_prefix
    rw [← (List.append_singleton_inj.mp split).1]
    exact List.prefix_append _ _

theorem suspends
    (assembles : Assembles policy block .incomplete text) :
    Validator.Suspends policy block ∧
      ((Validator.new policy).after block).input = text := by
  rcases assembles.exists_concat with
    ⟨front, line, rfl, suspends, verdict, input⟩
  rw [Validator.after_concat]
  exact ⟨suspends.concat verdict, input⟩

end Assembles

namespace Splitter

/-- The units that a splitter hands over while it reads lines, and the splitter then. -/
def read
    (splitter : Splitter) :
    List (List Char) → List UnitRecord × Splitter
  | [] => ([], splitter)
  | raw :: lines =>
      let (unit, next) := splitter.feed raw
      let (later, last) := next.read lines
      (unit.toList ++ later, last)

theorem units_append
    (splitter : Splitter)
    (first second : List (List Char)) :
    (splitter.units (first ++ second)).1 =
      (splitter.read first).1 ++ ((splitter.read first).2.units second).1 := by
  induction first generalizing splitter with
  | nil => rfl
  | cons raw first induction =>
      simp only [List.cons_append, units, read, induction, List.append_assoc]

theorem units_eq
    (splitter : Splitter)
    (lines : List (List Char)) :
    (splitter.units lines).1 =
      (splitter.read lines).1 ++ (splitter.read lines).2.finish.1.toList := by
  have whole := splitter.units_append lines []
  rwa [List.append_nil] at whole

variable {policy : Policy} {splitter : Splitter} {start : Nat}
variable {held block : List (List Char)} {raw : List Char}
variable {status : Verdict} {text : List Char}

/-- A line after which something is open is read without handing over a unit. -/
theorem Holds.feed_of_suspends
    (holds : splitter.Holds policy start held)
    (suspends :
      Validator.Suspends policy ((held ++ [raw]).map Text.dropLineEnd)) :
    ∃ next : Splitter, splitter.feed raw = (none, next) ∧
      next.index = splitter.index ∧ next.Holds policy start (held ++ [raw]) := by
  rw [List.map_append, List.map_singleton] at suspends
  have incomplete := suspends.verdict_of_concat
  rw [← holds.validator] at incomplete
  have later := holds.hold incomplete
  refine ⟨_, ?_, ?_, later⟩
  · simp only [Splitter.feed, holds.firstLine_eq, incomplete, if_true]
  · rfl

/-- A blank line between two blocks is dropped. -/
theorem Holds.feed_of_blank
    (holds : splitter.Holds policy start [])
    (blank : Text.isAllBlank (Text.dropLineEnd raw) = true) :
    ∃ next : Splitter, splitter.feed raw = (none, next) ∧
      next.index = splitter.index ∧ next.Holds policy (start + 1) [] := by
  have fresh : splitter.validator = Validator.new policy := holds.validator
  have complete := Validator.fst_validate_new_of_blank policy blank
  have input : ((Validator.new policy).validate (Text.dropLineEnd raw)).2.input =
      Text.dropLineEnd raw := rfl
  have taken := holds.take (Text.dropLineEnd raw) splitter.index (start + 1)
  refine ⟨_, ?_, ?_, taken⟩
  · simp only [Splitter.feed, holds.firstLine_eq]
    simp [fresh, complete, Validator.takeInput, input, isDropped, blank]
  · rfl

/-- A line that ends a unit is read with the unit, unless the unit is dropped. -/
theorem Holds.feed_of_assembles
    (holds : splitter.Holds policy start held)
    (assembles :
      Assembles policy ((held ++ [raw]).map Text.dropLineEnd) status text)
    (final : status ≠ .incomplete)
    (kept : isDropped status text = false) :
    ∃ next : Splitter,
      splitter.feed raw =
        (some ⟨splitter.index, start + 1, start + (held ++ [raw]).length, status,
          text⟩, next) ∧
      next.index = splitter.index + 1 ∧
      next.Holds policy (start + (held ++ [raw]).length) [] := by
  rw [List.map_append, List.map_singleton] at assembles
  rcases assembles.exists_concat with ⟨front, line, split, -, verdict, input⟩
  rcases List.append_singleton_inj.mp split with ⟨rfl, rfl⟩
  rw [← holds.validator] at verdict input
  have number : splitter.lineNumber + 1 = start + (held.length + 1) := by
    rw [holds.lineNumber]
    omega
  have taken := holds.take (Text.dropLineEnd raw) (splitter.index + 1) (start + 1)
  rw [List.length_append, List.length_singleton]
  refine ⟨_, ?_, ?_, taken⟩
  · simp only [Splitter.feed, holds.firstLine_eq, verdict, final, if_false,
      Validator.takeInput, input, kept, Bool.false_eq_true]
    rw [number]
  · rfl

/-- A block that assembles to a unit is read as that unit, whatever follows it. -/
theorem Holds.units_append
    (holds : splitter.Holds policy start held)
    (some : block ≠ [])
    (assembles :
      Assembles policy ((held ++ block).map Text.dropLineEnd) status text)
    (final : status ≠ .incomplete)
    (kept : isDropped status text = false) :
    ∃ next : Splitter, next.index = splitter.index + 1 ∧
      next.Holds policy (start + (held ++ block).length) [] ∧
      ∀ lines, splitter.units (block ++ lines) =
        (⟨splitter.index, start + 1, start + (held ++ block).length, status,
            text⟩ :: (next.units lines).1,
          (next.units lines).2) := by
  induction block generalizing splitter held with
  | nil => exact (some rfl).elim
  | cons raw block induction =>
      by_cases last : block = []
      · subst last
        rcases holds.feed_of_assembles assembles final kept with
          ⟨next, fed, index, empty⟩
        refine ⟨next, index, empty, ?_⟩
        intro lines
        simp [Splitter.units, fed]
      · have assoc : held ++ raw :: block = held ++ [raw] ++ block := by simp
        rw [assoc] at assembles ⊢
        have suspends : Validator.Suspends policy
            ((held ++ [raw]).map Text.dropLineEnd) := by
          rw [List.map_append] at assembles
          exact assembles.suspends_of_prefix (by simpa using last)
        rcases holds.feed_of_suspends suspends with ⟨middle, fed, index, later⟩
        rcases induction later last assembles with ⟨next, number, empty, read⟩
        refine ⟨next, by rw [number, index], empty, ?_⟩
        intro lines
        simp [Splitter.units, fed, read, index]

/-- Lines that leave something open are read without handing over a unit. -/
theorem Holds.read_of_suspends
    (holds : splitter.Holds policy start held)
    (suspends :
      Validator.Suspends policy ((held ++ block).map Text.dropLineEnd)) :
    (splitter.read block).1 = [] ∧
      (splitter.read block).2.index = splitter.index ∧
      (splitter.read block).2.Holds policy start (held ++ block) := by
  -- The lines move one after the other from the rest to what is held.
  induction block generalizing splitter held with
  | nil => exact ⟨rfl, rfl, by rwa [List.append_nil]⟩
  | cons raw block induction =>
      have assoc : held ++ raw :: block = held ++ [raw] ++ block := by simp
      rw [assoc] at suspends ⊢
      have front : Validator.Suspends policy
          ((held ++ [raw]).map Text.dropLineEnd) :=
        suspends.of_prefix ((List.prefix_append _ _).map _)
      rcases holds.feed_of_suspends front with ⟨next, fed, index, later⟩
      rcases induction later suspends with ⟨handed, same, holding⟩
      simp only [read, fed, handed, same, index, Option.toList_none, List.nil_append,
        true_and]
      exact holding

/-- Lines after which something is open are handed over as a last unit. -/
theorem Holds.units_of_suspends
    (holds : splitter.Holds policy start held)
    (some : held ≠ [] ∨ block ≠ [])
    (suspends :
      Validator.Suspends policy ((held ++ block).map Text.dropLineEnd)) :
    (splitter.units block).1 =
      [⟨splitter.index, start + 1, start + (held ++ block).length, .incomplete,
        ((Validator.new policy).after
          ((held ++ block).map Text.dropLineEnd)).input⟩] := by
  rcases holds.read_of_suspends suspends with ⟨nothing, index, later⟩
  have pending : held ++ block ≠ [] := by
    intro nothing
    rcases List.append_eq_nil_iff.mp nothing with ⟨rfl, rfl⟩
    exact some.elim (absurd rfl) (absurd rfl)
  rw [units_eq, nothing, later.finish_eq pending, index]
  rfl

/-- Nothing is handed over when no lines are held and none are left. -/
theorem Holds.units_nil
    (holds : splitter.Holds policy start []) :
    (splitter.units []).1 = [] := by
  have idle : splitter.validator.isPending = false := by
    rw [holds.validator]
    rfl
  simp [Splitter.units, Splitter.finish, idle]

theorem isDropped_of_feed
    {splitter next : Splitter}
    {raw : List Char}
    {unit : UnitRecord}
    (fed : splitter.feed raw = (some unit, next)) :
    isDropped unit.status unit.text = false := by
  unfold Splitter.feed at fed
  dsimp only at fed
  split at fed
  · cases fed
  · split at fed
    · cases fed
    · rename_i kept
      cases fed
      simpa using kept

/-- No unit that is handed over is one that is dropped. -/
theorem isDropped_of_mem_units
    {splitter : Splitter}
    {lines : List (List Char)}
    {unit : UnitRecord}
    (member : unit ∈ (splitter.units lines).1) :
    isDropped unit.status unit.text = false := by
  induction lines generalizing splitter with
  | nil =>
      simp only [Splitter.units, Option.mem_toList] at member
      unfold Splitter.finish at member
      split at member
      · cases member
        rfl
      · cases member
  | cons raw lines induction =>
      rw [Splitter.units] at member
      generalize fed : splitter.feed raw = answer at member
      rcases answer with ⟨first?, next⟩
      rcases List.mem_append.mp member with first | later
      · rw [Option.mem_toList] at first
        exact isDropped_of_feed (first ▸ fed)
      · exact induction later

end Splitter

end Delimit
