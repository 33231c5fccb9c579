import Delimit.Proofs.OffsetRefinement

/-!
# Sequences of operations

Lines are scanned, the input is forgotten or handed over, and either choice of the
policy is made anew, in any order.  The checked operations scan by offsets and
fail where an operation of the scan fails.  From a new validator none of them
does: the stack keeps its shape, from which no scan fails, and the checked
operations come to the same validator as the operations themselves.
-/

namespace Delimit

namespace Entry

/-- Whether an entry is an open bracket. -/
def IsOpenBracket : Entry → Prop
  | bracket kind => kind.isOpening = true
  | _ => False

/-- The shapes of a stack, whose entries are given bottom first. -/
inductive Layered : List Entry → Prop where
  /-- Open brackets. -/
  | code {opened : List Entry}
      (brackets : ∀ entry ∈ opened, entry.IsOpenBracket) :
      Layered opened
  /-- Open brackets with a literal on top. -/
  | literal {opened : List Entry} {kind : TokenKind}
      (brackets : ∀ entry ∈ opened, entry.IsOpenBracket)
      (quote : kind.isLiteralStart = true) :
      Layered (opened ++ [.literal kind])
  /-- Open brackets with a comment on top, and the brackets counted in it. -/
  | comment {opened inner : List Entry}
      (brackets : ∀ entry ∈ opened, entry.IsOpenBracket)
      (counted : ∀ entry ∈ inner, entry.IsOpenBracket) :
      Layered (opened ++ .comment :: inner)

theorem isOpenBracket_of_mem_reverse_brackets
    (opened : List Bracket) :
    ∀ entry ∈ (brackets opened).reverse, entry.IsOpenBracket := by
  intro entry member
  rcases List.mem_map.mp (List.mem_reverse.mp member) with ⟨bracket, -, rfl⟩
  rfl

end Entry

/-- A stack of sound shape has one of the shapes bottom first. -/
theorem Stack.Shaped.layered
    {stack : Stack}
    (shaped : stack.Shaped) :
    Entry.Layered stack.entries := by
  cases shaped with
  | code opened =>
      exact .code (Entry.isOpenBracket_of_mem_reverse_brackets opened)
  | literal quote opened =>
      rw [Stack.ofLiteral, Stack.entries_push]
      exact .literal (Entry.isOpenBracket_of_mem_reverse_brackets opened) rfl
  | comment inner opened =>
      rw [Stack.entries, Stack.ofComment, List.reverse_append,
        List.reverse_cons, List.append_assoc]
      exact .comment (Entry.isOpenBracket_of_mem_reverse_brackets opened)
        (Entry.isOpenBracket_of_mem_reverse_brackets inner)

/-- What can be done to a validator. -/
inductive Operation where
  | validate (line : List Char)
  | reset
  | takeInput
  | assignCommentBracketParity (value : Bool)
  | assignContinueUnterminatedLiterals (value : Bool)

namespace Operation

/-- The validator after an operation. -/
def apply
    (validator : Validator) :
    Operation → Validator
  | validate line => (validator.validate line).2
  | reset => validator.reset
  | takeInput => validator.takeInput.2
  | assignCommentBracketParity value =>
      { validator with
        policy := { validator.policy with commentBracketParity := value } }
  | assignContinueUnterminatedLiterals value =>
      { validator with
        policy :=
          { validator.policy with continueUnterminatedLiterals := value } }

/-- The validator after an operation whose scan is checked. -/
def perform
    (validator : Validator) :
    Operation → Except ScanFault Validator
  | validate line => do
      let scan ← OffsetScan.ofLine validator.policy validator.stack line
      return { validator with
        input := joinLine validator.continuesLiteral validator.input line
        stack := scan.stack }
  | operation => return apply validator operation

/-- The validator after one operation and another. -/
def applyAll
    (validator : Validator)
    (operations : List Operation) :
    Validator :=
  operations.foldl apply validator

/-- The validator after one checked operation and another. -/
def performAll
    (validator : Validator)
    (operations : List Operation) :
    Except ScanFault Validator :=
  operations.foldlM perform validator

theorem reachable_apply
    {validator : Validator}
    (reachable : validator.Reachable)
    (operation : Operation) :
    (apply validator operation).Reachable := by
  cases operation with
  | validate line => exact reachable.validate line
  | reset => exact reachable.reset
  | takeInput => exact reachable.takeInput
  | assignCommentBracketParity | assignContinueUnterminatedLiterals =>
      exact reachable.assign _

theorem reachable_applyAll
    {validator : Validator}
    (reachable : validator.Reachable)
    (operations : List Operation) :
    (applyAll validator operations).Reachable := by
  induction operations generalizing validator with
  | nil => exact reachable
  | cons operation operations induction =>
      exact induction (reachable_apply reachable operation)

/-- A checked operation on a validator that can be reached does not fail. -/
theorem perform_of_reachable
    {validator : Validator}
    (reachable : validator.Reachable)
    (operation : Operation) :
    perform validator operation = .ok (apply validator operation) := by
  cases operation with
  | validate line =>
      rw [perform, OffsetScan.ofLine_of_shaped reachable.shaped line]
      rfl
  | reset | takeInput => rfl
  | assignCommentBracketParity | assignContinueUnterminatedLiterals => rfl

theorem performAll_of_reachable
    {validator : Validator}
    (reachable : validator.Reachable)
    (operations : List Operation) :
    performAll validator operations = .ok (applyAll validator operations) := by
  induction operations generalizing validator with
  | nil => rfl
  | cons operation operations induction =>
      rw [performAll, List.foldlM_cons, perform_of_reachable reachable]
      exact induction (reachable_apply reachable operation)

/--
Whatever is done to a new validator, the checked operations do not fail and come
to the same validator; its stack has one of the shapes, and no scan of a further
line loses step with it.
-/
theorem performAll_new
    (policy : Policy)
    (operations : List Operation) :
    let validator := applyAll (.new policy) operations
    performAll (.new policy) operations = .ok validator ∧
      Entry.Layered validator.stack.entries ∧
      ∀ line, (Scan.ofLine validator.policy validator.stack line).desync? =
        none := by
  have reachable := reachable_applyAll (.new policy) operations
  refine ⟨performAll_of_reachable (.new policy) operations,
    reachable.shaped.layered, ?_⟩
  intro line
  exact (Scan.ofLine_shaped reachable.shaped line).2

end Operation

end Delimit
