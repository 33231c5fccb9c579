import Delimit.Proofs.StackShape

/-!
# Runs of a validator

Feeding lines to a validator one after the other gives a list of verdicts, one a
line, and a validator that holds what was fed.  Both are additive in the lines,
and the verdict on the last line is what scanning all lines reports.
-/

namespace Delimit

namespace Validator

/-- The validator after lines were fed to it. -/
def after
    (validator : Validator) :
    List (List Char) → Validator
  | [] => validator
  | line :: lines => (validator.validate line).2.after lines

/-- The verdicts on lines that are fed to a validator. -/
def verdicts
    (validator : Validator) :
    List (List Char) → List Verdict
  | [] => []
  | line :: lines =>
      (validator.validate line).1 :: (validator.validate line).2.verdicts lines

theorem stack_validate
    (validator : Validator)
    (line : List Char) :
    (validator.validate line).2.stack =
      (Scan.ofLine validator.policy validator.stack line).stack := rfl

@[simp]
theorem joinLine_nil
    (continuesLiteral : Bool)
    (line : List Char) :
    joinLine continuesLiteral [] line = line := rfl

theorem joinLine_of_ne_nil
    {input : List Char}
    (nonempty : input ≠ [])
    (line : List Char) :
    joinLine false input line = input ++ '\n' :: line := by
  simp [joinLine, nonempty]

theorem after_append
    (validator : Validator)
    (first second : List (List Char)) :
    validator.after (first ++ second) =
      (validator.after first).after second := by
  induction first generalizing validator with
  | nil => rfl
  | cons line first induction => exact induction _

theorem verdicts_append
    (validator : Validator)
    (first second : List (List Char)) :
    validator.verdicts (first ++ second) =
      validator.verdicts first ++ (validator.after first).verdicts second := by
  induction first generalizing validator with
  | nil => rfl
  | cons line first induction =>
      exact congrArg (_ :: ·) (induction _)

theorem verdicts_concat
    (validator : Validator)
    (lines : List (List Char))
    (line : List Char) :
    validator.verdicts (lines ++ [line]) =
      validator.verdicts lines ++ [((validator.after lines).validate line).1] := by
  rw [verdicts_append]
  rfl

theorem after_concat
    (validator : Validator)
    (lines : List (List Char))
    (line : List Char) :
    validator.after (lines ++ [line]) =
      ((validator.after lines).validate line).2 := by
  rw [after_append]
  rfl

@[simp]
theorem policy_after
    (validator : Validator)
    (lines : List (List Char)) :
    (validator.after lines).policy = validator.policy := by
  induction lines generalizing validator with
  | nil => rfl
  | cons line lines induction => exact induction _

theorem policy_after_new
    (policy : Policy)
    (lines : List (List Char)) :
    ((new policy).after lines).policy = policy :=
  policy_after (new policy) lines

theorem validateAll_eq
    (validator : Validator)
    (lines : List (List Char)) :
    validator.validateAll lines =
      ((validator.verdicts lines).getLast?, validator.after lines) := by
  induction lines generalizing validator with
  | nil => rfl
  | cons line lines induction =>
      simp only [validateAll, induction, verdicts, after, List.getLast?_cons]
      cases ((validator.validate line).2.verdicts lines).getLast? <;> rfl

theorem validateAll_concat
    (validator : Validator)
    (lines : List (List Char))
    (line : List Char) :
    validator.validateAll (lines ++ [line]) =
      (some ((validator.after lines).validate line).1,
        ((validator.after lines).validate line).2) := by
  rw [validateAll_eq, verdicts_append, after_append]
  simp [verdicts, after]

theorem Reachable.after
    {validator : Validator}
    (reachable : Reachable validator)
    (lines : List (List Char)) :
    Reachable (validator.after lines) := by
  induction lines generalizing validator with
  | nil => exact reachable
  | cons line lines induction => exact induction (reachable.validate line)

theorem shaped_after_new
    (policy : Policy)
    (lines : List (List Char)) :
    ((new policy).after lines).stack.Shaped :=
  ((Reachable.new policy).after lines).shaped

/-- A literal is continued when the stack is that of a literal. -/
theorem continuesLiteral_iff
    {validator : Validator}
    (shaped : validator.stack.Shaped) :
    validator.continuesLiteral = true ↔
      ∃ quote opened, validator.stack = Stack.ofLiteral quote opened := by
  rcases validator with ⟨policy, input, stack⟩
  cases shaped with
  | literal quote opened => exact ⟨fun _ => ⟨quote, opened, rfl⟩, fun _ => rfl⟩
  | code before =>
      constructor
      · intro continues
        cases before <;> cases continues
      · rintro ⟨quote, opened, same⟩
        exact (Stack.ofCode_ne_ofLiteral before opened quote same).elim
  | comment inner before =>
      constructor
      · intro continues
        cases inner <;> cases continues
      · rintro ⟨quote, opened, same⟩
        exact (Stack.ofComment_ne_ofLiteral inner before opened quote same).elim

end Validator

end Delimit
