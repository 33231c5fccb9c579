import Delimit.Proofs.BracketVerdicts
import Delimit.Proofs.CommentLife

/-!
# Buried brackets

A scan looks at the top of the stack and, when a comment ends, at what lies above
the comment.  Brackets at the bottom are looked at by a closing bracket without a
partner only, which is a mismatch.  So lines that are taken without a mismatch are
taken in the same way above any brackets, which stay where they are.

It follows that lines that leave nothing open may stand between a bracket and its
partner.
-/

namespace Delimit

/-- A stack with brackets below it, of which the oldest one is given first. -/
def Stack.onto
    (stack : Stack)
    (base : List TokenKind) :
    Stack :=
  ⟨stack.topFirst ++ (base.map .bracket).reverse⟩

namespace Stack

@[simp]
theorem inComment_onto
    (stack : Stack)
    (base : List TokenKind) :
    (stack.onto base).inComment = stack.inComment := by
  simp [inComment, contains, onto]

/-- The top of a stack hides the brackets below. -/
theorem top?_onto
    {stack : Stack}
    {entry : Entry}
    (top : stack.top? = some entry)
    (base : List TokenKind) :
    (stack.onto base).top? = some entry ∧
      (stack.onto base).tail = stack.tail.onto base := by
  rcases stack with ⟨entries⟩
  rcases List.head?_eq_some_iff.mp top with ⟨below, rfl⟩
  exact ⟨rfl, rfl⟩

theorem below?_append
    {target : Entry}
    {front below : List Entry}
    (found : below? target front = some below)
    (back : List Entry) :
    below? target (front ++ back) = some (below ++ back) := by
  induction front with
  | nil => cases found
  | cons entry front induction =>
      rw [below?] at found
      rw [List.cons_append, below?]
      split at found
      · rename_i same
        cases found
        rw [if_pos same]
      · rename_i different
        rw [if_neg different]
        exact induction found

theorem unwind_onto
    {stack below : Stack}
    {target : Entry}
    (unwound : stack.unwind target = .ok below)
    (base : List TokenKind) :
    (stack.onto base).unwind target = .ok (below.onto base) := by
  unfold unwind at unwound ⊢
  split at unwound
  · rename_i found
    cases unwound
    rw [onto, below?_append found]
    rfl
  · cases unwound

end Stack

namespace Scan

variable {policy : Policy}

/-- A cursor above brackets. -/
def Cursor.onto
    (cursor : Cursor)
    (base : List TokenKind) :
    Cursor :=
  { cursor with stack := cursor.stack.onto base }

/-- A scan that comes to its end above brackets. -/
def onto
    (scan : Scan)
    (base : List TokenKind) :
    Scan :=
  { scan with stack := scan.stack.onto base }

theorem afterLiteral_onto
    (inComment : Bool)
    (stack : Stack)
    (base : List TokenKind)
    (quote : Quote)
    (ending : LiteralEnding) :
    afterLiteral policy inComment (stack.onto base) quote ending =
      (afterLiteral policy inComment stack quote ending).onto base := by
  unfold afterLiteral
  split <;> rfl

/-- In a comment, something stands above the brackets below. -/
theorem Cursor.Sound.exists_top
    {cursor : Cursor}
    (sound : cursor.Sound)
    (inside : cursor.inComment = true) :
    ∃ entry, cursor.stack.top? = some entry := by
  cases sound with
  | code => cases inside
  | literal => cases inside
  | comment inner opened =>
      cases inner with
      | nil => exact ⟨_, rfl⟩
      | cons bracket inner => exact ⟨_, rfl⟩

/-- Every step is also taken above brackets. -/
theorem Step.onto
    {cursor next : Cursor}
    {consumed : List Char}
    (step : Step policy cursor consumed next)
    (sound : cursor.Sound)
    (base : List TokenKind) :
    Step policy (cursor.onto base) consumed (next.onto base) := by
  cases step with
  | opens form => exact .opens form
  | closes form unwound => exact .closes form (Stack.unwind_onto unwound base)
  | passes form inner incomplete uncounted =>
      exact .passes form inner incomplete uncounted
  | pushes form counted => exact .pushes form counted
  | @pops _ _ stack _ _ _ _ _ form counted partner =>
      rcases Stack.top?_onto partner base with ⟨top, tail⟩
      change Step policy _ _ ⟨_, false, stack.tail.onto base, _⟩
      rw [← tail]
      exact .pops form counted top
  | ignores form counted single =>
      rcases sound.exists_top rfl with ⟨entry, top⟩
      refine .ignores form counted ?_
      rw [(Stack.top?_onto top base).1, ← top]
      exact single
  | @reads inComment _ stack quote _ _ _ _ _ _ ending form counted literal =>
      change Step policy _ _ ⟨inComment, false,
        (afterLiteral policy inComment stack quote ending).onto base, _⟩
      rw [← afterLiteral_onto]
      exact .reads form counted literal
  | skips form inert incomplete counted =>
      exact .skips form inert incomplete counted

theorem atLineEnd_onto
    {inComment : Bool}
    {stack : Stack}
    {swallowed : List Char}
    (inStep : (atLineEnd inComment stack swallowed).desync? = none)
    (base : List TokenKind) :
    atLineEnd inComment (stack.onto base) swallowed =
      (atLineEnd inComment stack swallowed).onto base := by
  unfold atLineEnd at inStep ⊢
  split
  · rename_i closes
    rw [if_pos closes] at inStep
    cases unwound : stack.unwind .comment with
    | ok below =>
        rw [Stack.unwind_onto unwound]
        rfl
    | error fault =>
        rw [unwound] at inStep
        cases inStep
  · rfl

/-- A scan that ends without a mismatch ends in the same way above brackets. -/
theorem Halts.onto
    {cursor : Cursor}
    {scan : Scan}
    (halts : Halts policy cursor scan)
    (sound : cursor.Sound)
    (matched : scan.mismatched = false)
    (base : List TokenKind) :
    Halts policy (cursor.onto base) (scan.onto base) := by
  have inStep := (halts.sound sound).2
  cases halts with
  | lineEnd form =>
      rw [← atLineEnd_onto inStep]
      exact .lineEnd form
  | mismatch => cases matched
  | lost => cases inStep

/-- A scan without a mismatch comes to the same above brackets. -/
theorem Cursor.Sound.run_onto
    {cursor : Cursor}
    (sound : cursor.Sound)
    (matched : (cursor.run policy).mismatched = false)
    (base : List TokenKind) :
    (cursor.onto base).run policy = (cursor.run policy).onto base := by
  induction cursor using Cursor.inductionOn policy with
  | halt cursor scan halts =>
      rw [halts.run_eq] at matched ⊢
      exact (halts.onto sound matched base).run_eq
  | step cursor consumed next step induction =>
      rw [step.run_eq] at matched ⊢
      rw [(step.onto sound base).run_eq]
      exact induction (step.sound sound) matched

theorem beginning_onto
    (stack : Stack)
    (base : List TokenKind)
    (line : List Char) :
    Validator.beginning (stack.onto base) line =
      (Validator.beginning stack line).onto base := by
  simp [Validator.beginning, Cursor.onto]

/-- No literal is open on brackets that are laid bare. -/
theorem top?_onto_ne_literal
    {stack : Stack}
    {kind : TokenKind}
    (outside : stack.top? ≠ some (.literal kind))
    (base : List TokenKind) :
    (stack.onto base).top? ≠ some (.literal kind) := by
  rcases stack with ⟨_ | ⟨entry, entries⟩⟩
  · intro literal
    have member := List.mem_of_mem_head? literal
    simp [Stack.onto] at member
  · exact outside

/-- A line without a mismatch comes to the same above brackets. -/
theorem ofLine_onto
    {stack : Stack}
    (shaped : stack.Shaped)
    {line : List Char}
    (matched : (ofLine policy stack line).mismatched = false)
    (base : List TokenKind) :
    ofLine policy (stack.onto base) line = (ofLine policy stack line).onto base := by
  rcases Validator.outside_or_eq_ofLiteral shaped with
    outside | ⟨quote, opened, rfl⟩
  · rw [Validator.ofLine_of_outside outside] at matched ⊢
    rw [Validator.ofLine_of_outside fun kind =>
      top?_onto_ne_literal (outside kind) base, beginning_onto]
    exact (Validator.sound_beginning shaped outside line).run_onto matched base
  · -- The literal hides the brackets until it is closed.
    rw [ofLine_ofLiteral] at matched ⊢
    have resumes : ofLine policy ((Stack.ofLiteral quote opened).onto base) line =
        if (LiteralContent.read quote line).ending.isClosed then
          ((Cursor.mk false false (.ofCode opened)
            (LiteralContent.read quote line).rest).onto base).run policy
        else
          finished ((Stack.ofLiteral quote opened).onto base) := by
      rw [← Validator.beginning_ofCode, ← beginning_onto]
      rfl
    rw [resumes]
    split
    · rename_i closed
      rw [if_pos closed] at matched
      exact (Cursor.Sound.code opened false _).run_onto matched base
    · rfl

end Scan

namespace Validator

open BracketMark (wordOf)

/-- Validators of the same policy, the second one with brackets below the stack of the first. -/
structure Buries
    (base : List TokenKind)
    (validator buried : Validator) :
    Prop where
  shaped : validator.stack.Shaped
  policy : buried.policy = validator.policy
  stack : buried.stack = validator.stack.onto base

variable {base : List TokenKind} {validator buried : Validator}

/-- A line without a mismatch is taken in the same way above brackets. -/
theorem Buries.validate
    (buries : Buries base validator buried)
    {line : List Char}
    (matched : (validator.validate line).1 ≠ .mismatch) :
    (buried.validate line).1 ≠ .mismatch ∧
      Buries base (validator.validate line).2 (buried.validate line).2 := by
  have unmarked := mismatched_of_verdictOf matched
  have same : Scan.ofLine buried.policy buried.stack line =
      (Scan.ofLine validator.policy validator.stack line).onto base := by
    rw [buries.policy, buries.stack]
    exact Scan.ofLine_onto buries.shaped unmarked base
  refine ⟨?_, (Scan.ofLine_shaped buries.shaped line).1, buries.policy, ?_⟩
  · apply verdictOf_ne_mismatch
    rw [same]
    exact unmarked
  · rw [stack_validate, same]
    rfl

/-- Lines without a mismatch are taken in the same way above brackets. -/
theorem Buries.after
    (buries : Buries base validator buried)
    {lines : List (List Char)}
    (matched : .mismatch ∉ validator.verdicts lines) :
    .mismatch ∉ buried.verdicts lines ∧
      Buries base (validator.after lines) (buried.after lines) := by
  induction lines generalizing validator buried with
  | nil => exact ⟨by simp [verdicts], buries⟩
  | cons line lines induction =>
      rw [verdicts, List.mem_cons, not_or] at matched
      rcases buries.validate (Ne.symm matched.1) with ⟨here, next⟩
      rcases induction next matched.2 with ⟨later, last⟩
      refine ⟨?_, last⟩
      rw [verdicts, List.mem_cons, not_or]
      exact ⟨Ne.symm here, later⟩

theorem validate_eq_incomplete
    {line : List Char}
    (matched : (validator.validate line).1 ≠ .mismatch)
    (pending : (validator.validate line).2.stack.topFirst ≠ []) :
    (validator.validate line).1 = .incomplete := by
  rw [stack_validate] at pending
  rw [validate, verdictOf] at matched ⊢
  split at matched
  · exact (matched rfl).elim
  · rename_i marked
    rw [if_neg marked, if_neg (by simpa [Stack.isEmpty] using pending)]

theorem topFirst_eq_nil_of_complete
    {line : List Char}
    (complete : (validator.validate line).1 = .complete) :
    (validator.validate line).2.stack.topFirst = [] := by
  by_contra pending
  have incomplete := validate_eq_incomplete (by rw [complete]; simp) pending
  rw [complete] at incomplete
  cases incomplete

theorem Buries.topFirst_ne_nil
    (buries : Buries base validator buried)
    (some : base ≠ []) :
    buried.stack.topFirst ≠ [] := by
  rw [buries.stack, Stack.onto]
  simp [some]

/-- Above a bracket, more lines are always needed. -/
theorem Buries.verdicts_eq
    (buries : Buries base validator buried)
    (some : base ≠ [])
    {lines : List (List Char)}
    (matched : .mismatch ∉ validator.verdicts lines) :
    buried.verdicts lines = List.replicate lines.length .incomplete := by
  induction lines generalizing validator buried with
  | nil => rfl
  | cons line lines induction =>
      rw [verdicts, List.mem_cons, not_or] at matched
      rcases buries.validate (Ne.symm matched.1) with ⟨here, next⟩
      rw [verdicts, validate_eq_incomplete here (next.topFirst_ne_nil some),
        induction next matched.2]
      rfl

/-- An opening bracket alone on a line is what a new validator then waits on. -/
theorem validate_new_opening
    (policy : Policy)
    {bracket : Bracket}
    {line : List Char}
    (bare : IsBare line)
    (word : wordOf line = [.opens bracket]) :
    ((new policy).validate line).1 = .incomplete ∧
      Buries [.opening bracket] (new policy) ((new policy).validate line).2 := by
  have decides : Decides (BracketMark.read [] (wordOf line))
      (some ((new policy).validate line).1, ((new policy).validate line).2) :=
    decides_validate rfl bare
  have kept := policy_validate (new policy) line
  rw [word] at decides
  change Decides (some [bracket]) _ at decides
  generalize (new policy).validate line = outcome at decides kept
  rcases outcome with ⟨verdict, validator⟩
  cases decides with
  | incomplete nonempty stack => exact ⟨rfl, .code [], kept, stack⟩

/-- The partner of the only bracket that is open completes the input. -/
theorem validate_closing
    {bracket : Bracket}
    (stack : validator.stack = .ofCode [bracket])
    {line : List Char}
    (bare : IsBare line)
    (word : wordOf line = [.closes bracket]) :
    (validator.validate line).1 = .complete := by
  have decides := decides_validate stack bare
  have closed : BracketMark.read [bracket] [.closes bracket] = some [] := by
    simp [BracketMark.read]
  rw [word, closed] at decides
  generalize validator.validate line = outcome at decides
  rcases outcome with ⟨verdict, after⟩
  cases decides with
  | complete => rfl
  | incomplete nonempty => exact (nonempty rfl).elim

/-- Lines whose last one completes the input leave nothing open. -/
theorem topFirst_after_of_complete
    {lines : List (List Char)}
    (complete : (validator.verdicts lines).getLast? = some .complete) :
    (validator.after lines).stack.topFirst = [] := by
  rcases List.eq_nil_or_concat lines with rfl | ⟨front, line, rfl⟩
  · cases complete
  · rw [List.concat_eq_append, verdicts_concat, List.getLast?_concat,
      Option.some_inj] at complete
    rw [List.concat_eq_append, after_concat]
    exact topFirst_eq_nil_of_complete complete

/-- Lines that are completed are incomplete between a bracket and its partner. -/
theorem verdicts_enclosed
    (policy : Policy)
    {bracket : Bracket}
    {first last : List Char}
    {lines : List (List Char)}
    (opens : IsBare first ∧ wordOf first = [.opens bracket])
    (closes : IsBare last ∧ wordOf last = [.closes bracket])
    (matched : .mismatch ∉ (new policy).verdicts lines)
    (complete : ((new policy).verdicts lines).getLast? = some .complete) :
    (new policy).verdicts (first :: (lines ++ [last])) =
      List.replicate (lines.length + 1) .incomplete ++ [.complete] := by
  rcases validate_new_opening policy opens.1 opens.2 with ⟨begun, buries⟩
  have inner := buries.verdicts_eq (by simp) matched
  have stack : (((new policy).validate first).2.after lines).stack =
      .ofCode [bracket] := by
    rw [(buries.after matched).2.stack, Stack.onto,
      topFirst_after_of_complete complete]
    rfl
  rw [verdicts, begun, verdicts_concat, inner,
    validate_closing stack closes.1 closes.2, List.replicate_succ]
  rfl

/--
Lines that are taken without a mismatch are taken without one above any brackets, and
leave above them what they leave otherwise.  So lines that a new validator takes
without a mismatch and completes are incomplete between a bracket and its partner, and
the partner completes them.
-/
theorem buried_and_enclosed
    (policy : Policy) :
    (∀ (base : List TokenKind) (input buriedInput : List Char) (stack : Stack)
        (lines : List (List Char)),
      stack.Shaped →
      .mismatch ∉ (Validator.mk policy input stack).verdicts lines →
        .mismatch ∉
            (Validator.mk policy buriedInput (stack.onto base)).verdicts lines ∧
          ((Validator.mk policy buriedInput (stack.onto base)).after lines).stack =
            ((Validator.mk policy input stack).after lines).stack.onto base) ∧
      ∀ (bracket : Bracket) (first last : List Char) (lines : List (List Char)),
        IsBare first → wordOf first = [.opens bracket] →
        IsBare last → wordOf last = [.closes bracket] →
        .mismatch ∉ (new policy).verdicts lines →
        ((new policy).verdicts lines).getLast? = some .complete →
          (new policy).verdicts (first :: (lines ++ [last])) =
            List.replicate (lines.length + 1) .incomplete ++ [.complete] := by
  constructor
  · intro base input buriedInput stack lines shaped matched
    have buries : Buries base ⟨policy, input, stack⟩
        ⟨policy, buriedInput, stack.onto base⟩ := ⟨shaped, rfl, rfl⟩
    rcases buries.after matched with ⟨later, last⟩
    exact ⟨later, last.stack⟩
  · intro bracket first last lines bareFirst opens bareLast closes
    exact verdicts_enclosed policy ⟨bareFirst, opens⟩ ⟨bareLast, closes⟩

/-- Lines with a counted comment, a literal over two lines, and brackets of their own. -/
def nestedLines : List (List Char) :=
  ["f(/* [ ) \"".toList, " ] */ 'a".toList, "(b' )".toList]

/-- Above two brackets and between two others, the nested lines are taken as they are. -/
theorem buried_and_enclosed_nestedLines :
    .mismatch ∉ (new { commentBracketParity := true }).verdicts nestedLines ∧
      ((Validator.mk { commentBracketParity := true } []
          (Stack.empty.onto [.opening .brace, .opening .square])).after
            nestedLines).stack =
        Stack.empty.onto [.opening .brace, .opening .square] ∧
      (new { commentBracketParity := true }).verdicts
          ("g [".toList :: (nestedLines ++ ["] ;".toList])) =
        [.incomplete, .incomplete, .incomplete, .incomplete, .complete] := by
  have matched :
      .mismatch ∉ (new { commentBracketParity := true }).verdicts nestedLines := by
    decide +kernel
  have complete :
      ((new { commentBracketParity := true }).verdicts nestedLines).getLast? =
        some .complete := by
    decide +kernel
  have nothing :
      ((new { commentBracketParity := true }).after nestedLines).stack = .empty := by
    decide +kernel
  rcases buried_and_enclosed { commentBracketParity := true } with
    ⟨buried, enclosed⟩
  have above := (buried [.opening .brace, .opening .square] [] [] .empty
    nestedLines (.code []) matched).2
  refine ⟨matched, above.trans (congrArg (Stack.onto · _) nothing), ?_⟩
  exact enclosed .square "g [".toList "] ;".toList nestedLines (by decide +kernel)
    (by decide +kernel) (by decide +kernel) (by decide +kernel) matched complete

end Validator
end Delimit
