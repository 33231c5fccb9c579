import Delimit.Proofs.ScanMoves

/-!
# The life of a comment

A comment is opened on a stack of brackets and lives until a move leaves it, at a
closing marker or at the end of a line.  In between, the policy may change whenever
a line has ended, so the brackets and quotes of the comment may be counted on some
lines and passed over on others.  All the same the comment stands on the stack that
it was opened on, no scan that ends inside it is a mismatch, and the move that
leaves it restores that stack.
-/

namespace Delimit

namespace Scan

variable {policy : Policy}

/-- The account of a sound cursor of being in a comment agrees with its stack. -/
theorem Cursor.Sound.inComment_stack
    {cursor : Cursor}
    (sound : cursor.Sound) :
    cursor.stack.inComment = cursor.inComment := by
  cases sound with
  | code opened => exact Stack.inComment_ofCode opened
  | comment inner opened => exact Stack.inComment_ofComment inner opened
  | literal quote opened => exact Stack.inComment_ofLiteral quote opened

/-- A scan that ends outside comments leaves the stack as it is. -/
theorem Halts.stack_of_outside
    {cursor : Cursor}
    {scan : Scan}
    (halts : Halts policy cursor scan)
    (outside : cursor.inComment = false) :
    scan.stack = cursor.stack := by
  cases halts with
  | lineEnd form =>
      cases outside
      rfl
  | mismatch form => rfl
  | lost form => cases outside

/-- A scan that ends inside a comment is no mismatch. -/
theorem Halts.mismatched_of_inside
    {cursor : Cursor}
    {scan : Scan}
    (halts : Halts policy cursor scan)
    (inside : cursor.inComment = true) :
    scan.mismatched = false := by
  cases halts with
  | lineEnd form =>
      unfold atLineEnd
      split
      · split <;> rfl
      · rfl
  | mismatch form => cases inside
  | lost form => rfl

/-- A step that opens a comment opens it on brackets. -/
theorem Step.opens_comment
    {cursor next : Cursor}
    {consumed : List Char}
    (step : Step policy cursor consumed next)
    (sound : cursor.Sound)
    (outside : cursor.stack.inComment = false)
    (inside : next.stack.inComment = true) :
    ∃ opened, cursor.stack = Stack.ofCode opened ∧
      next.stack = Stack.ofComment [] opened := by
  cases sound with
  | literal quote opened => exact absurd step.length_text_lt (by simp)
  | comment inner opened => simp at outside
  | code opened =>
      rcases step.of_code with
        ⟨others, -, same⟩ | ⟨-, same⟩ | ⟨quote, -, same, -⟩
      · simp [same] at inside
      · exact ⟨opened, rfl, same⟩
      · simp [same] at inside

end Scan

namespace Validator

/-- Only a step of a scan opens a comment, and it opens it on brackets. -/
theorem Moves.opens_comment
    {point next : Point}
    (move : Moves point next)
    (sound : point.Sound)
    (outside : point.stack.inComment = false)
    (inside : next.stack.inComment = true) :
    ∃ opened, point.stack = Stack.ofCode opened ∧
      next.stack = Stack.ofComment [] opened := by
  cases sound with
  | between shaped =>
      cases move with
      | begins | continues | assigns =>
          exact absurd (outside.symm.trans inside) (by simp)
      | resumes literal closed =>
          -- The literal that is closed stood on brackets only.
          rcases eq_ofLiteral_of_top? shaped literal with ⟨opened, same⟩
          simp [Point.stack, beginning, same, Stack.ofLiteral] at inside
  | inside sound same =>
      cases move with
      | steps step => exact step.opens_comment sound outside inside
      | ends halts =>
          have kept := halts.stack_of_outside
            (sound.inComment_stack.symm.trans outside)
          have unchanged := congrArg Stack.inComment kept
          exact absurd (outside.symm.trans (unchanged.symm.trans inside))
            (by simp)

theorem inComment_of_comment
    {cursor : Scan.Cursor}
    {inner opened : List Bracket}
    (sound : cursor.Sound)
    (inside : cursor.stack = Stack.ofComment inner opened) :
    cursor.inComment = true := by
  rw [← sound.inComment_stack, inside, Stack.inComment_ofComment]

theorem verdictOf_ne_mismatch
    {scan : Scan}
    (matched : scan.mismatched = false) :
    verdictOf scan ≠ .mismatch := by
  unfold verdictOf
  rw [matched, if_neg Bool.false_ne_true]
  split <;> simp

theorem mismatched_of_verdictOf
    {scan : Scan}
    (matched : verdictOf scan ≠ .mismatch) :
    scan.mismatched = false := by
  cases marked : scan.mismatched with
  | false => rfl
  | true => exact (matched (if_pos marked)).elim

/-- A move inside a comment stays in it or leaves with the stack that it stands on. -/
theorem Moves.of_comment
    {point next : Point}
    {inner opened : List Bracket}
    (move : Moves point next)
    (sound : point.Sound)
    (inside : point.stack = Stack.ofComment inner opened) :
    (∃ counted, next.stack = Stack.ofComment counted opened) ∨
      next.stack = Stack.ofCode opened := by
  cases sound with
  | between shaped =>
      cases move with
      | begins | continues | assigns => exact .inl ⟨inner, inside⟩
      | resumes literal closed =>
          rcases eq_ofLiteral_of_top? shaped literal with ⟨before, same⟩
          exact (Stack.ofComment_ne_ofLiteral inner opened before _
            (inside.symm.trans same)).elim
  | @inside validator line cursor sound same =>
      have commented := inComment_of_comment sound inside
      rcases cursor with ⟨inComment, half, stack, text⟩
      cases commented
      cases inside
      cases move with
      | steps step =>
          rcases step.of_comment with ⟨counted, -, stays⟩ | ⟨-, leaves⟩
          · exact .inl ⟨counted, stays⟩
          · exact .inr leaves
      | ends halts =>
          rcases halts.of_comment with rfl | rfl
          · exact .inl ⟨inner, rfl⟩
          · exact .inr rfl

/-- The points that can be reached from another one without leaving a comment. -/
def ReachesInComment : Point → Point → Prop :=
  Relation.ReflTransGen fun point next =>
    Moves point next ∧ next.stack.inComment = true

/-- As long as a comment is not left, it stands on the same stack. -/
theorem ReachesInComment.of_comment
    {point next : Point}
    {inner opened : List Bracket}
    (stays : ReachesInComment point next)
    (sound : point.Sound)
    (inside : point.stack = Stack.ofComment inner opened) :
    next.Sound ∧ ∃ counted, next.stack = Stack.ofComment counted opened := by
  induction stays with
  | refl => exact ⟨sound, inner, inside⟩
  | tail _ stays induction =>
      rcases induction with ⟨sound, counted, inside⟩
      refine ⟨stays.1.sound sound, ?_⟩
      rcases stays.1.of_comment sound inside with commented | left
      · exact commented
      · have outside := congrArg Stack.inComment left
        rw [stays.2, Stack.inComment_ofCode] at outside
        cases outside

/-- A comment that is open at a point stands on a stack that it leaves alone. -/
structure StandsOn (stack : Stack) (point : Point) : Prop where
  /-- Above the stack are the comment and the brackets that were counted in it. -/
  entries : ∃ counted,
    point.stack.topFirst = Entry.brackets counted ++ .comment :: stack.topFirst
  /-- The scan of a line that ends here is no mismatch. -/
  matched : ∀ validator line cursor after,
    point = .inside validator line cursor →
      Moves point (.between after) →
        ∃ verdict, validator.validate line = (verdict, after) ∧
          verdict ≠ .mismatch
  /-- The move that leaves the comment restores the stack. -/
  restores : ∀ next, Moves point next → next.stack.inComment = false →
    next.stack = stack

theorem standsOn_of_comment
    {point : Point}
    {counted opened : List Bracket}
    (sound : point.Sound)
    (inside : point.stack = Stack.ofComment counted opened) :
    StandsOn (Stack.ofCode opened) point where
  entries := ⟨counted, congrArg Stack.topFirst inside⟩
  matched := by
    rintro validator line cursor after rfl move
    cases sound with
    | inside sound same =>
        have commented := inComment_of_comment sound inside
        cases move with
        | ends halts =>
            exact ⟨_, (Point.Sound.inside sound same).validate_of_halts halts,
              verdictOf_ne_mismatch (halts.mismatched_of_inside commented)⟩
  restores := by
    intro next move outside
    rcases move.of_comment sound inside with ⟨others, stays⟩ | leaves
    · simp [stays] at outside
    · exact leaves

/--
From the move that opens a comment until the move that leaves it, the comment
stands on the stack that it was opened on.
-/
theorem standsOn_of_opens
    {start : Validator}
    {before opened now : Point}
    (reachable : start.Reachable)
    (arrives : Reaches (.between start) before)
    (opens : Moves before opened)
    (outside : before.stack.inComment = false)
    (inside : opened.stack.inComment = true)
    (stays : ReachesInComment opened now) :
    opened.stack = before.stack.push .comment ∧
      StandsOn before.stack now := by
  have sound := arrives.sound (.between reachable.shaped)
  rcases opens.opens_comment sound outside inside with ⟨brackets, below, above⟩
  rcases stays.of_comment (opens.sound sound) above with
    ⟨later, counted, commented⟩
  rw [below]
  exact ⟨above, standsOn_of_comment later commented⟩

/-- A comment behind a parenthesis, with a square bracket counted in it. -/
def countedStack : Stack :=
  ⟨[.bracket (.opening .square), .comment, .bracket (.opening .paren)]⟩

/--
The validator that counted the bracket, at the end of its line, and then ceased to
count brackets inside comments.
-/
def switchedValidator : Validator :=
  ⟨{ commentBracketParity := false }, ['(', '/', '*', '['], countedStack⟩

/-- The point behind a bracket, a quote and one half of the closing marker. -/
def switchedPoint : Point :=
  .inside switchedValidator [']', '"', '*', '/']
    ⟨true, true, countedStack, ['/']⟩

theorem reaches_openingMarker :
    Reaches (.between (.new { commentBracketParity := true }))
      (.inside (.new { commentBracketParity := true }) ['(', '/', '*', '[']
        ⟨false, true, ⟨[.bracket (.opening .paren)]⟩, ['*', '[']⟩) := by
  have paren := @Lexeme.form_symbol '(' _ ['/', '*', '['] rfl (by decide)
  have slash := @Lexeme.form_symbol '/' _ ['*', '['] rfl (by decide)
  have pushes : Scan.Step { commentBracketParity := true }
      ⟨false, false, .empty, ['(', '/', '*', '[']⟩ ['(']
      ⟨false, false, ⟨[.bracket (.opening .paren)]⟩, ['/', '*', '[']⟩ :=
    .pushes paren rfl
  have skips : Scan.Step { commentBracketParity := true }
      ⟨false, false, ⟨[.bracket (.opening .paren)]⟩, ['/', '*', '[']⟩ ['/']
      ⟨false, true, ⟨[.bracket (.opening .paren)]⟩, ['*', '[']⟩ :=
    .skips slash rfl rfl rfl
  exact .head (.begins rfl) (.head (.steps pushes) (.single (.steps skips)))

theorem reaches_switchedPoint :
    ReachesInComment
      (.inside (.new { commentBracketParity := true }) ['(', '/', '*', '[']
        ⟨true, false, ⟨[.comment, .bracket (.opening .paren)]⟩, ['[']⟩)
      switchedPoint := by
  have square := @Lexeme.form_symbol '[' _ [] rfl (by decide)
  have pushes : Scan.Step { commentBracketParity := true }
      ⟨true, false, ⟨[.comment, .bracket (.opening .paren)]⟩, ['[']⟩ ['[']
      ⟨true, false, countedStack, []⟩ :=
    .pushes square rfl
  have halts : Scan.Halts { commentBracketParity := true }
      ⟨true, false, countedStack, []⟩ (Scan.finished countedStack) :=
    .lineEnd (.blankEnd rfl)
  have bracket := @Lexeme.form_symbol ']' _ ['"', '*', '/'] rfl (by decide)
  have passesBracket : Scan.Step switchedValidator.policy
      ⟨true, false, countedStack, [']', '"', '*', '/']⟩ [']']
      ⟨true, false, countedStack, ['"', '*', '/']⟩ :=
    .passes bracket (by decide) rfl rfl
  have quote := @Lexeme.form_symbol '"' _ ['*', '/'] rfl (by decide)
  have passesQuote : Scan.Step switchedValidator.policy
      ⟨true, false, countedStack, ['"', '*', '/']⟩ ['"']
      ⟨true, false, countedStack, ['*', '/']⟩ :=
    .passes quote (by decide) rfl rfl
  have asterisk := @Lexeme.form_symbol '*' _ ['/'] rfl (by decide)
  have passesAsterisk : Scan.Step switchedValidator.policy
      ⟨true, false, countedStack, ['*', '/']⟩ ['*']
      ⟨true, true, countedStack, ['/']⟩ :=
    .passes asterisk (by decide) rfl rfl
  exact .head ⟨.steps pushes, rfl⟩ <|
    .head ⟨.ends halts, rfl⟩ <|
    .head ⟨.assigns { commentBracketParity := false }, rfl⟩ <|
    .head ⟨.begins rfl, rfl⟩ <|
    .head ⟨.steps passesBracket, rfl⟩ <|
    .head ⟨.steps passesQuote, rfl⟩ <|
    .single ⟨.steps passesAsterisk, rfl⟩

theorem standsOn_switchedPoint :
    StandsOn ⟨[.bracket (.opening .paren)]⟩ switchedPoint ∧
      ∃ next, Moves switchedPoint next ∧ next.stack.inComment = false := by
  have asterisk := @Lexeme.form_symbol '*' _ ['['] rfl (by decide)
  have opens : Scan.Step { commentBracketParity := true }
      ⟨false, true, ⟨[.bracket (.opening .paren)]⟩, ['*', '[']⟩ ['*']
      ⟨true, false, ⟨[.comment, .bracket (.opening .paren)]⟩, ['[']⟩ :=
    .opens asterisk
  have slash := @Lexeme.form_symbol '/' _ [] rfl (by decide)
  have closes : Scan.Step switchedValidator.policy
      ⟨true, true, countedStack, ['/']⟩ ['/']
      ⟨false, false, ⟨[.bracket (.opening .paren)]⟩, []⟩ :=
    .closes slash rfl
  exact ⟨(standsOn_of_opens (.new _) reaches_openingMarker (.steps opens) rfl rfl
    reaches_switchedPoint).2, _, .steps closes, rfl⟩

end Validator

end Delimit
