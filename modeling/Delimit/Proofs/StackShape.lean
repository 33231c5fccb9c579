import Delimit.Proofs.ScanStep
import Delimit.Validator

/-!
# The shape of the stack

The entries of a stack are open brackets, with at most one other entry among
them: a literal on top of all, or a comment with the brackets that were counted
inside it on top.  Every scan keeps this shape and its own account of being in a
comment, so it never loses step with the stack.  All validators that can be
reached have stacks of this shape.
-/

namespace Delimit

/-- The entries of open brackets. -/
def Entry.brackets
    (opened : List Bracket) :
    List Entry :=
  opened.map fun bracket => .bracket (.opening bracket)

@[simp]
theorem Entry.brackets_nil : Entry.brackets [] = [] := rfl

@[simp]
theorem Entry.brackets_cons
    (bracket : Bracket)
    (opened : List Bracket) :
    Entry.brackets (bracket :: opened) =
      .bracket (.opening bracket) :: Entry.brackets opened := rfl

theorem Entry.comment_notMem_brackets
    (opened : List Bracket) :
    Entry.comment ∉ Entry.brackets opened := by
  simp [Entry.brackets]

namespace Stack

/-- The stack of open brackets. -/
def ofCode
    (opened : List Bracket) :
    Stack :=
  ⟨Entry.brackets opened⟩

/-- The stack of a literal above open brackets. -/
def ofLiteral
    (quote : Quote)
    (opened : List Bracket) :
    Stack :=
  (ofCode opened).push (.literal (.quote quote))

/-- The stack of the brackets inside a comment above those before it. -/
def ofComment
    (inner opened : List Bracket) :
    Stack :=
  ⟨Entry.brackets inner ++ .comment :: Entry.brackets opened⟩

/-- The shapes that a stack can have. -/
inductive Shaped : Stack → Prop where
  /-- Nothing but brackets is open. -/
  | code (opened : List Bracket) : Shaped (ofCode opened)
  /-- A literal is open. -/
  | literal (quote : Quote) (opened : List Bracket) :
      Shaped (ofLiteral quote opened)
  /-- A comment is open, with the brackets that were counted in it. -/
  | comment (inner opened : List Bracket) : Shaped (ofComment inner opened)

theorem below?_append_cons
    {target : Entry}
    {front : List Entry}
    (absent : target ∉ front)
    (below : List Entry) :
    below? target (front ++ target :: below) = some below := by
  induction front with
  | nil => simp [below?]
  | cons entry front induction =>
      simp only [List.mem_cons, not_or] at absent
      rw [List.cons_append, below?, if_neg (Ne.symm absent.1)]
      exact induction absent.2

theorem unwind_comment
    (inner opened : List Bracket) :
    (ofComment inner opened).unwind .comment = .ok (ofCode opened) := by
  rw [unwind, ofComment,
    below?_append_cons (Entry.comment_notMem_brackets inner)]
  rfl

theorem ofCode_injective
    {opened other : List Bracket}
    (same : ofCode opened = ofCode other) :
    opened = other := by
  have entries := congrArg Stack.topFirst same
  apply (List.map_inj_right _).mp entries
  intro first second equal
  cases equal
  rfl

theorem ofCode_ne_ofLiteral
    (opened before : List Bracket)
    (quote : Quote) :
    ofCode opened ≠ ofLiteral quote before := by
  intro same
  have top := congrArg Stack.top? same
  cases opened <;> cases top

theorem ofComment_ne_ofLiteral
    (inner opened before : List Bracket)
    (quote : Quote) :
    ofComment inner opened ≠ ofLiteral quote before := by
  intro same
  have top := congrArg Stack.top? same
  cases inner <;> cases top

theorem ofLiteral_injective
    {quote other : Quote}
    {opened before : List Bracket}
    (same : ofLiteral quote opened = ofLiteral other before) :
    quote = other ∧ opened = before := by
  have top := congrArg Stack.top? same
  have below := congrArg Stack.tail same
  cases top
  exact ⟨rfl, ofCode_injective below⟩

@[simp]
theorem inComment_ofCode
    (opened : List Bracket) :
    (ofCode opened).inComment = false := by
  simp [inComment, contains, ofCode, Entry.comment_notMem_brackets]

@[simp]
theorem inComment_ofLiteral
    (quote : Quote)
    (opened : List Bracket) :
    (ofLiteral quote opened).inComment = false := by
  simp [inComment, contains, ofLiteral, push, ofCode,
    Entry.comment_notMem_brackets]

@[simp]
theorem inComment_ofComment
    (inner opened : List Bracket) :
    (ofComment inner opened).inComment = true := by
  simp [inComment, contains, ofComment]

theorem Shaped.eq_ofComment
    {stack : Stack}
    (shaped : stack.Shaped)
    (inside : stack.inComment = true) :
    ∃ inner opened, stack = ofComment inner opened := by
  cases shaped with
  | code opened =>
      rw [inComment_ofCode] at inside
      cases inside
  | literal quote opened =>
      rw [inComment_ofLiteral] at inside
      cases inside
  | comment inner opened => exact ⟨inner, opened, rfl⟩

end Stack

namespace Scan

/--
Cursors whose account of being in a comment agrees with a stack of sound shape.  A
literal that the line left open has no text behind it.
-/
inductive Cursor.Sound : Cursor → Prop where
  /-- The scan is in code. -/
  | code (opened : List Bracket) (half : Bool) (text : List Char) :
      Sound ⟨false, half, Stack.ofCode opened, text⟩
  /-- The scan is in a comment. -/
  | comment (inner opened : List Bracket) (half : Bool) (text : List Char) :
      Sound ⟨true, half, Stack.ofComment inner opened, text⟩
  /-- The line ended inside a literal. -/
  | literal (quote : Quote) (opened : List Bracket) (half : Bool) :
      Sound ⟨false, half, Stack.ofLiteral quote opened, []⟩

variable {policy : Policy}

theorem afterLiteral_code
    (policy : Policy)
    (opened : List Bracket)
    (quote : Quote)
    (ending : LiteralEnding) :
    afterLiteral policy false (Stack.ofCode opened) quote ending =
      if !ending.isClosed && policy.continueUnterminatedLiterals then
        Stack.ofLiteral quote opened
      else
        Stack.ofCode opened := by
  simp [afterLiteral, Stack.ofLiteral]

@[simp]
theorem afterLiteral_comment
    (policy : Policy)
    (stack : Stack)
    (quote : Quote)
    (ending : LiteralEnding) :
    afterLiteral policy true stack quote ending = stack := by
  simp [afterLiteral]

/-- A step in code stays in it, opens a comment or ends the line inside a literal. -/
theorem Step.of_code
    {opened : List Bracket}
    {half : Bool}
    {text consumed : List Char}
    {next : Cursor}
    (step : Step policy ⟨false, half, Stack.ofCode opened, text⟩ consumed next) :
    (∃ others, next.inComment = false ∧ next.stack = Stack.ofCode others) ∨
      (next.inComment = true ∧ next.stack = Stack.ofComment [] opened) ∨
      ∃ quote, next.inComment = false ∧
        next.stack = Stack.ofLiteral quote opened ∧ next.text = [] := by
  cases step with
  | opens form => exact .inr (.inl ⟨rfl, rfl⟩)
  | @pushes _ _ _ bracket => exact .inl ⟨bracket :: opened, rfl, rfl⟩
  | pops form counted partner =>
      cases opened with
      | nil => cases partner
      | cons bracket opened => exact .inl ⟨opened, rfl, rfl⟩
  | @reads _ _ _ quote _ _ _ _ _ rest ending form counted literal =>
      rw [afterLiteral_code]
      cases ending with
      | closed => exact .inl ⟨opened, rfl, rfl⟩
      | unclosed escaping =>
          have nothing := LiteralContent.rest_of_unclosed
            (by rw [literal]; simp)
          rw [literal] at nothing
          cases nothing
          split
          · exact .inr (.inr ⟨quote, rfl, rfl, rfl⟩)
          · exact .inl ⟨opened, rfl, rfl⟩
  | skips => exact .inl ⟨opened, rfl, rfl⟩

/-- A step inside a comment stays in it or leaves with the brackets before it. -/
theorem Step.of_comment
    {inner opened : List Bracket}
    {half : Bool}
    {text consumed : List Char}
    {next : Cursor}
    (step : Step policy ⟨true, half, Stack.ofComment inner opened, text⟩
      consumed next) :
    (∃ counted, next.inComment = true ∧
        next.stack = Stack.ofComment counted opened) ∨
      next.inComment = false ∧ next.stack = Stack.ofCode opened := by
  cases step with
  | closes form unwound =>
      rw [Stack.unwind_comment] at unwound
      cases unwound
      exact .inr ⟨rfl, rfl⟩
  | passes => exact .inl ⟨inner, rfl, rfl⟩
  | @pushes _ _ _ bracket => exact .inl ⟨bracket :: inner, rfl, rfl⟩
  | pops form counted partner =>
      cases inner with
      | nil => cases partner
      | cons bracket inner => exact .inl ⟨inner, rfl, rfl⟩
  | ignores => exact .inl ⟨inner, rfl, rfl⟩
  | reads form counted literal =>
      exact .inl ⟨inner, rfl, afterLiteral_comment _ _ _ _⟩
  | skips => exact .inl ⟨inner, rfl, rfl⟩

/-- A scan that ends inside a comment is no mismatch, and may close the comment. -/
theorem Halts.of_comment
    {inner opened : List Bracket}
    {half : Bool}
    {text : List Char}
    {scan : Scan}
    (halts : Halts policy ⟨true, half, Stack.ofComment inner opened, text⟩ scan) :
    scan = finished (Stack.ofComment inner opened) ∨
      scan = finished (Stack.ofCode opened) := by
  cases halts with
  | lineEnd form =>
      unfold atLineEnd
      split
      · rw [Stack.unwind_comment]
        exact .inr rfl
      · exact .inl rfl
  | lost form missing =>
      rw [Stack.unwind_comment] at missing
      cases missing

/-- Every step keeps a cursor sound. -/
theorem Step.sound
    {cursor next : Cursor}
    {consumed : List Char}
    (step : Step policy cursor consumed next)
    (sound : cursor.Sound) :
    next.Sound := by
  rcases next with ⟨inComment, half, stack, rest⟩
  cases sound with
  | literal quote opened => exact absurd step.length_text_lt (by simp)
  | code opened =>
      rcases step.of_code with
        ⟨others, rfl, rfl⟩ | ⟨rfl, rfl⟩ | ⟨quote, rfl, rfl, rfl⟩
      · exact .code others half rest
      · exact .comment [] opened half rest
      · exact .literal quote opened half
  | comment inner opened =>
      rcases step.of_comment with ⟨counted, rfl, rfl⟩ | ⟨rfl, rfl⟩
      · exact .comment counted opened half rest
      · exact .code opened half rest

theorem Halts.sound
    {cursor : Cursor}
    {scan : Scan}
    (halts : Halts policy cursor scan)
    (sound : cursor.Sound) :
    scan.stack.Shaped ∧ scan.desync? = none := by
  cases sound with
  | literal quote opened half =>
      cases halts with
      | lineEnd form => exact ⟨.literal quote opened, rfl⟩
      | mismatch form => cases form.kind_of_nil
  | code opened half text =>
      cases halts with
      | lineEnd form => exact ⟨.code opened, rfl⟩
      | mismatch form => exact ⟨.code opened, rfl⟩
  | comment inner opened half text =>
      rcases halts.of_comment with rfl | rfl
      · exact ⟨.comment inner opened, rfl⟩
      · exact ⟨.code opened, rfl⟩

theorem Cursor.Sound.run
    {cursor : Cursor}
    (sound : cursor.Sound) :
    (cursor.run policy).stack.Shaped ∧ (cursor.run policy).desync? = none := by
  induction cursor using Cursor.inductionOn policy with
  | halt cursor scan halts =>
      rw [halts.run_eq]
      exact halts.sound sound
  | step cursor consumed next step induction =>
      rw [step.run_eq]
      exact induction (step.sound sound)

theorem ofLine_ofCode
    (policy : Policy)
    (opened : List Bracket)
    (line : List Char) :
    ofLine policy (Stack.ofCode opened) line =
      Cursor.run policy ⟨false, false, Stack.ofCode opened, line⟩ := by
  have code : fromCode policy (Stack.ofCode opened) line =
      Cursor.run policy ⟨false, false, Stack.ofCode opened, line⟩ := by
    simp [fromCode, Cursor.run]
  cases opened with
  | nil => exact code
  | cons bracket opened => exact code

theorem ofLine_ofComment
    (policy : Policy)
    (inner opened : List Bracket)
    (line : List Char) :
    ofLine policy (Stack.ofComment inner opened) line =
      Cursor.run policy
        ⟨true, false, Stack.ofComment inner opened, line⟩ := by
  have comment : fromCode policy (Stack.ofComment inner opened) line =
      Cursor.run policy
        ⟨true, false, Stack.ofComment inner opened, line⟩ := by
    simp [fromCode, Cursor.run]
  cases inner with
  | nil => exact comment
  | cons bracket inner => exact comment

theorem ofLine_ofLiteral
    (policy : Policy)
    (quote : Quote)
    (opened : List Bracket)
    (line : List Char) :
    ofLine policy (Stack.ofLiteral quote opened) line =
      if (LiteralContent.read quote line).ending.isClosed then
        Cursor.run policy ⟨false, false, Stack.ofCode opened,
          (LiteralContent.read quote line).rest⟩
      else
        finished (Stack.ofLiteral quote opened) := by
  simp [ofLine, Stack.ofLiteral, fromCode, Cursor.run]

theorem ofLine_shaped
    {stack : Stack}
    (shaped : stack.Shaped)
    (line : List Char) :
    (ofLine policy stack line).stack.Shaped ∧
      (ofLine policy stack line).desync? = none := by
  cases shaped with
  | code opened =>
      rw [ofLine_ofCode]
      exact (Cursor.Sound.code opened _ _).run
  | comment inner opened =>
      rw [ofLine_ofComment]
      exact (Cursor.Sound.comment inner opened _ _).run
  | literal quote opened =>
      rw [ofLine_ofLiteral]
      split
      · exact (Cursor.Sound.code opened _ _).run
      · exact ⟨.literal quote opened, rfl⟩

end Scan

namespace Validator

/--
The validators that can be reached from new ones by scanning lines, by forgetting
or handing over the input, and by changing the policy.
-/
inductive Reachable : Validator → Prop where
  /-- A new validator. -/
  | new (policy : Policy) : Reachable (new policy)
  /-- A line was scanned. -/
  | validate {validator : Validator} (line : List Char) :
      Reachable validator → Reachable (validator.validate line).2
  /-- The input was forgotten. -/
  | reset {validator : Validator} :
      Reachable validator → Reachable validator.reset
  /-- The input was handed over. -/
  | takeInput {validator : Validator} :
      Reachable validator → Reachable validator.takeInput.2
  /-- The policy was changed. -/
  | assign {validator : Validator} (policy : Policy) :
      Reachable validator → Reachable { validator with policy }

/-- The stacks of all validators that can be reached have a sound shape. -/
theorem Reachable.shaped
    {validator : Validator}
    (reachable : Reachable validator) :
    validator.stack.Shaped := by
  induction reachable with
  | new policy => exact .code []
  | validate line reachable shaped => exact (Scan.ofLine_shaped shaped line).1
  | reset reachable shaped => exact .code []
  | takeInput reachable shaped => exact .code []
  | assign policy reachable shaped => exact shaped

end Validator

end Delimit
