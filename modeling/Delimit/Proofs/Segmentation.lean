import Delimit.Proofs.Spelled
import Delimit.Splitter

/-!
# Units partition their lines

A splitter cuts its lines into blocks, one after the other.  A block is a single
blank line, which is dropped, or lines that a new validator takes as one unit.
Between two blocks the validator is as good as new, and inside a block something is
open, so that the input that it holds tells the two apart.

All that is promised about the units follows by induction on the blocks: how they
are numbered, which lines they cover, what an uncovered line looks like, and what
becomes of the lines of a unit when they are read on their own.
-/

namespace Delimit

namespace Validator

theorem stack_ne_empty_of_incomplete
    {validator : Validator}
    {line : List Char}
    (incomplete : (validator.validate line).1 = .incomplete) :
    (validator.validate line).2.stack.topFirst ≠ [] := by
  intro empty
  have nothing : (validator.validate line).2.stack.isEmpty = true := by
    rw [Stack.isEmpty, empty, List.isEmpty_nil]
  rw [validate, verdictOf] at incomplete
  split at incomplete
  · cases incomplete
  · split at incomplete
    · cases incomplete
    · contradiction

/-- Something is open after every line that a new validator takes. -/
def Suspends
    (policy : Policy)
    (lines : List (List Char)) :
    Prop :=
  (new policy).verdicts lines = List.replicate lines.length .incomplete

theorem suspends_nil
    (policy : Policy) :
    Suspends policy [] := rfl

theorem Suspends.verdict_of_concat
    {policy : Policy}
    {lines : List (List Char)}
    {line : List Char}
    (suspends : Suspends policy (lines ++ [line])) :
    (((new policy).after lines).validate line).1 = .incomplete := by
  rw [Suspends, verdicts_concat, List.length_append, List.length_singleton,
    List.replicate_succ', List.append_singleton_inj] at suspends
  exact suspends.2

theorem Suspends.topFirst_ne_nil
    {policy : Policy}
    {lines : List (List Char)}
    (suspends : Suspends policy lines)
    (some : lines ≠ []) :
    ((new policy).after lines).stack.topFirst ≠ [] := by
  rcases List.eq_nil_or_concat lines with rfl | ⟨front, last, rfl⟩
  · exact (some rfl).elim
  · rw [List.concat_eq_append] at suspends ⊢
    rw [after_concat]
    exact stack_ne_empty_of_incomplete suspends.verdict_of_concat

/-- Lines that suspend a validator leave it with input, and no blank one. -/
theorem Suspends.isAllBlank_input
    {policy : Policy}
    {lines : List (List Char)}
    (suspends : Suspends policy lines)
    (some : lines ≠ []) :
    Text.isAllBlank ((new policy).after lines).input = false :=
  ((Reachable.new policy).after lines).spelled.isAllBlank_eq_false
    (suspends.topFirst_ne_nil some)

/-- While something is open, the input is no blank text, whatever line comes. -/
theorem Reachable.isAllBlank_validate
    {validator : Validator}
    (reachable : Reachable validator)
    (something : validator.stack.topFirst ≠ [])
    (line : List Char) :
    Text.isAllBlank (validator.validate line).2.input = false := by
  obtain ⟨before, joined, keeps⟩ := exists_joinLine_append
    validator.continuesLiteral validator.input line
  have visible := (keeps _ reachable.spelled).isAllBlank_eq_false something
  rw [input_validate, joined, Text.isAllBlank_append, visible, Bool.false_and]

theorem Suspends.isAllBlank_validate
    {policy : Policy}
    {lines : List (List Char)}
    (suspends : Suspends policy lines)
    (some : lines ≠ [])
    (line : List Char) :
    Text.isAllBlank
      (((new policy).after lines).validate line).2.input = false :=
  ((Reachable.new policy).after lines).isAllBlank_validate
    (suspends.topFirst_ne_nil some) line

theorem Suspends.concat
    {policy : Policy}
    {lines : List (List Char)}
    {line : List Char}
    (suspends : Suspends policy lines)
    (incomplete : (((new policy).after lines).validate line).1 = .incomplete) :
    Suspends policy (lines ++ [line]) := by
  rw [Suspends, verdicts_concat, suspends, incomplete, List.length_append,
    List.length_singleton, List.replicate_succ']

end Validator

/-- Lines that a new validator takes as one unit, with its status and its text. -/
structure Assembles
    (policy : Policy)
    (block : List (List Char))
    (status : Verdict)
    (text : List Char) :
    Prop where
  /-- Something is open after every line but the last, which decides the status. -/
  verdicts : (Validator.new policy).verdicts block =
    List.replicate (block.length - 1) .incomplete ++ [status]
  /-- The validator ends with the text as its input. -/
  input : ((Validator.new policy).after block).input = text

theorem Validator.Suspends.assembles
    {policy : Policy}
    {lines : List (List Char)}
    (suspends : Suspends policy lines)
    (line : List Char) :
    Assembles policy (lines ++ [line])
      (((new policy).after lines).validate line).1
      (((new policy).after lines).validate line).2.input where
  verdicts := by
    rw [verdicts_concat, suspends]
    simp
  input := by rw [after_concat]

namespace Splitter

/--
A splitter that holds lines of the block that begins behind the line with number
`start`.
-/
structure Holds
    (splitter : Splitter)
    (policy : Policy)
    (start : Nat)
    (held : List (List Char)) :
    Prop where
  /-- The validator is a new one that took the lines that are held. -/
  validator : splitter.validator =
    (Validator.new policy).after (held.map Text.dropLineEnd)
  /-- Something is open after each of them. -/
  suspends : Validator.Suspends policy (held.map Text.dropLineEnd)
  /-- The lines that are held are the last ones that were read. -/
  lineNumber : splitter.lineNumber = start + held.length
  /-- The block begins with the first of them. -/
  firstLine : held ≠ [] → splitter.firstLine = start + 1

/-- What becomes of a line that is fed to a splitter. -/
inductive Feeding
    (policy : Policy)
    (splitter : Splitter)
    (start : Nat)
    (held : List (List Char))
    (raw : List Char) :
    Option UnitRecord → Splitter → Prop where
  /-- Something is still open. -/
  | held {next : Splitter}
      (index : next.index = splitter.index)
      (holds : next.Holds policy start (held ++ [raw])) :
      Feeding policy splitter start held raw none next
  /-- A blank line is a block of its own and is dropped. -/
  | dropped {next : Splitter}
      (single : held = [])
      (blank : Text.isAllBlank (Text.dropLineEnd raw) = true)
      (index : next.index = splitter.index)
      (holds : next.Holds policy (start + 1) []) :
      Feeding policy splitter start held raw none next
  /-- The line ends a unit. -/
  | ended {next : Splitter} {status : Verdict} {text : List Char}
      (final : status ≠ .incomplete)
      (assembles :
        Assembles policy ((held ++ [raw]).map Text.dropLineEnd) status text)
      (index : next.index = splitter.index + 1)
      (holds : next.Holds policy (start + (held.length + 1)) []) :
      Feeding policy splitter start held raw
        (some ⟨splitter.index, start + 1, start + (held.length + 1), status,
          text⟩)
        next

variable {policy : Policy}

/-- The input of the validator tells whether any lines are held. -/
theorem Holds.isEmpty_input
    {splitter : Splitter}
    {start : Nat}
    {held : List (List Char)}
    (holds : splitter.Holds policy start held) :
    splitter.validator.input.isEmpty = held.isEmpty := by
  rw [holds.validator]
  cases held with
  | nil => rfl
  | cons raw held =>
      have visible := holds.suspends.isAllBlank_input (by simp)
      rw [List.isEmpty_cons, List.isEmpty_eq_false_iff]
      intro empty
      rw [empty] at visible
      cases visible

theorem Holds.firstLine_eq
    {splitter : Splitter}
    {start : Nat}
    {held : List (List Char)}
    (holds : splitter.Holds policy start held) :
    (if splitter.validator.input.isEmpty then
        splitter.lineNumber + 1
      else
        splitter.firstLine) = start + 1 := by
  rw [holds.isEmpty_input, holds.lineNumber]
  cases held with
  | nil => rfl
  | cons raw held => exact holds.firstLine (by simp)

/-- A line after which something is open is held with the others. -/
theorem Holds.hold
    {splitter : Splitter}
    {start : Nat}
    {held : List (List Char)}
    (holds : splitter.Holds policy start held)
    {raw : List Char}
    (incomplete :
      (splitter.validator.validate (Text.dropLineEnd raw)).1 = .incomplete) :
    Holds
      { splitter with
        validator := (splitter.validator.validate (Text.dropLineEnd raw)).2
        firstLine := start + 1
        lineNumber := splitter.lineNumber + 1 }
      policy start (held ++ [raw]) where
  validator := by
    rw [List.map_append, List.map_singleton, Validator.after_concat,
      ← holds.validator]
  suspends := by
    rw [holds.validator] at incomplete
    rw [List.map_append, List.map_singleton]
    exact holds.suspends.concat incomplete
  lineNumber := by
    simp only [holds.lineNumber, List.length_append, List.length_singleton]
    omega
  firstLine := fun _ => rfl

/-- When the input is taken, no line is held any more. -/
theorem Holds.take
    {splitter : Splitter}
    {start : Nat}
    {held : List (List Char)}
    (holds : splitter.Holds policy start held)
    (line : List Char)
    (index firstLine : Nat) :
    Holds
      ⟨(splitter.validator.validate line).2.takeInput.2, index, firstLine,
        splitter.lineNumber + 1⟩
      policy (start + (held.length + 1)) [] where
  validator := by
    rw [holds.validator, Validator.takeInput, Validator.reset,
      Validator.policy_validate, Validator.policy_after_new]
    rfl
  suspends := Validator.suspends_nil policy
  lineNumber := by
    simp only [holds.lineNumber, List.length_nil]
    omega
  firstLine := absurd rfl

/-- Every line that is fed is held, dropped or ends a unit. -/
theorem Holds.feed
    {splitter : Splitter}
    {start : Nat}
    {held : List (List Char)}
    (holds : splitter.Holds policy start held)
    (raw : List Char) :
    Feeding policy splitter start held raw
      (splitter.feed raw).1 (splitter.feed raw).2 := by
  have taken := holds.take (Text.dropLineEnd raw)
  unfold Splitter.feed
  simp only [holds.firstLine_eq]
  split
  · rename_i incomplete
    exact .held rfl (holds.hold incomplete)
  · rename_i final
    split
    · rename_i dropped
      simp only [isDropped, Bool.and_eq_true] at dropped
      -- With lines held, something was open, and its delimiter is no blank.
      have single : held = [] := by
        cases held with
        | nil => rfl
        | cons first held =>
            have visible := holds.suspends.isAllBlank_validate (by simp)
              (Text.dropLineEnd raw)
            rw [← holds.validator] at visible
            exact absurd dropped.2 (by rw [Validator.takeInput, visible]; simp)
      subst single
      have blank : Text.isAllBlank (Text.dropLineEnd raw) = true := by
        have input := dropped.2
        rw [holds.validator] at input
        exact input
      exact .dropped rfl blank rfl (taken _ _)
    · have assembles := holds.suspends.assembles (Text.dropLineEnd raw)
      rw [← holds.validator, ← List.map_singleton, ← List.map_append]
        at assembles
      have number : splitter.lineNumber + 1 = start + (held.length + 1) := by
        rw [holds.lineNumber]
        omega
      simp only [number] at taken ⊢
      exact .ended final assembles rfl (taken _ _)

end Splitter

/--
The blocks of lines, the first of which has the number after `start`, with the units
that they make up, the first of which has the given index.
-/
inductive Segmentation (policy : Policy) :
    Nat → Nat → List (List Char) → List UnitRecord → Prop where
  /-- No lines are left. -/
  | done {start index : Nat} : Segmentation policy start index [] []
  /-- A blank line is a block without a unit. -/
  | blank {start index : Nat} {line : List Char} {lines : List (List Char)}
      {units : List UnitRecord}
      (blank : Text.isAllBlank (Text.dropLineEnd line) = true)
      (rest : Segmentation policy (start + 1) index lines units) :
      Segmentation policy start index (line :: lines) units
  /-- A block makes up a unit that ends with it. -/
  | unit {start index : Nat} {block lines : List (List Char)}
      {units : List UnitRecord} {status : Verdict} {text : List Char}
      (some : block ≠ [])
      (final : status ≠ .incomplete)
      (assembles : Assembles policy (block.map Text.dropLineEnd) status text)
      (rest : Segmentation policy (start + block.length) (index + 1) lines
        units) :
      Segmentation policy start index (block ++ lines)
        (⟨index, start + 1, start + block.length, status, text⟩ :: units)
  /-- The last block makes up a unit that does not end. -/
  | pending {start index : Nat} {block : List (List Char)} {text : List Char}
      (some : block ≠ [])
      (assembles :
        Assembles policy (block.map Text.dropLineEnd) .incomplete text) :
      Segmentation policy start index block
        [⟨index, start + 1, start + block.length, .incomplete, text⟩]

variable {policy : Policy}

theorem Validator.Suspends.assembles_incomplete
    {lines : List (List Char)}
    (suspends : Suspends policy lines)
    (some : lines ≠ []) :
    Assembles policy lines .incomplete ((new policy).after lines).input where
  verdicts := by
    have length : lines.length = lines.length - 1 + 1 := by
      have := List.length_pos_iff.mpr some
      omega
    rw [suspends, length, List.replicate_succ', Nat.add_sub_cancel]
  input := rfl

/-- Lines that are held when the lines run out make up a last unit. -/
theorem Splitter.Holds.finish_eq
    {splitter : Splitter}
    {start : Nat}
    {held : List (List Char)}
    (holds : splitter.Holds policy start held)
    (some : held ≠ []) :
    splitter.finish.1 = Option.some
      ⟨splitter.index, start + 1, start + held.length, .incomplete,
        ((Validator.new policy).after (held.map Text.dropLineEnd)).input⟩ := by
  have pending : splitter.validator.isPending = true := by
    have visible := holds.isEmpty_input
    rw [List.isEmpty_eq_false_iff.mpr some] at visible
    simp [Validator.isPending, visible]
  have last : max splitter.lineNumber (start + 1) = start + held.length := by
    have := List.length_pos_iff.mpr some
    rw [holds.lineNumber]
    omega
  simp only [Splitter.finish, pending, if_true, holds.firstLine some, last,
    Validator.takeInput, ← holds.validator]

theorem Splitter.Holds.finish
    {splitter : Splitter}
    {start : Nat}
    {held : List (List Char)}
    (holds : splitter.Holds policy start held) :
    Segmentation policy start splitter.index held
      splitter.finish.1.toList := by
  cases held with
  | nil =>
      have idle : splitter.validator.isPending = false := by
        rw [holds.validator]
        rfl
      simpa [Splitter.finish, idle] using Segmentation.done
  | cons raw held =>
      rw [holds.finish_eq (by simp)]
      exact .pending (by simp) (holds.suspends.assembles_incomplete (by simp))

/-- A splitter cuts its lines into blocks. -/
theorem Splitter.Holds.units
    {splitter : Splitter}
    {start : Nat}
    {held lines : List (List Char)}
    (holds : splitter.Holds policy start held) :
    Segmentation policy start splitter.index (held ++ lines)
      (splitter.units lines).1 := by
  induction lines generalizing splitter start held with
  | nil =>
      rw [List.append_nil]
      exact holds.finish
  | cons raw lines induction =>
      have fed := holds.feed raw
      rw [Splitter.units]
      generalize splitter.feed raw = answer at fed
      rcases answer with ⟨unit, next⟩
      have assoc : held ++ raw :: lines = held ++ [raw] ++ lines := by simp
      -- The held lines move to the front of the block as the splitter reads on.
      cases fed with
      | held index later =>
          rw [assoc, ← index]
          exact induction later
      | dropped single blank index later =>
          subst single
          rw [← index]
          exact .blank blank (induction later)
      | ended final assembles index later =>
          have rest := induction later
          rw [index] at rest
          have length : held.length + 1 = (held ++ [raw]).length := by simp
          rw [assoc]
          simp only [length] at rest ⊢
          exact .unit (by simp) final assembles rest

/-- A splitter with a new validator holds no line. -/
theorem Splitter.holds_new
    (policy : Policy) :
    Splitter.Holds ⟨Validator.new policy, 0, 1, 0⟩ policy 0 [] :=
  ⟨rfl, Validator.suspends_nil policy, rfl, absurd rfl⟩

/-- A splitter with a new validator cuts all lines into blocks. -/
theorem segmentation_splitUnits
    (policy : Policy)
    (lines : List (List Char)) :
    Segmentation policy 0 0 lines
      (splitUnits (Validator.new policy) lines).1 :=
  (Splitter.holds_new policy).units

end Delimit
