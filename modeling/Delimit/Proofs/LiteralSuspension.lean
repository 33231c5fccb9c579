import Delimit.Proofs.StackShape

/-!
# Lines that end inside a literal

A line that leaves a literal open splits into a front, up to and with the opening
quote, and the content of the literal.  The front alone determines where the scan
stands: whatever other text comes behind it, the scan goes on with that text as a
continued literal.  A line that continues a literal can therefore be scanned on
its own or as part of one longer line, with the same outcome.
-/

namespace Delimit

namespace Scan

variable {policy : Policy}

theorem run_ofLiteral
    (policy : Policy)
    (quote : Quote)
    (opened : List Bracket)
    (half : Bool) :
    Cursor.run policy ⟨false, half, Stack.ofLiteral quote opened, []⟩ =
      finished (Stack.ofLiteral quote opened) :=
  (Halts.lineEnd (.blankEnd rfl)).run_eq

/--
A front behind which a scan stands inside a literal, with the content of the
literal so far.
-/
structure Suspension
    (policy : Policy)
    (scan : List Char → Scan)
    (quote : Quote)
    (opened : List Bracket)
    (front content : List Char) :
    Prop where
  /-- The front ends in the opening quote. -/
  quoted : front.getLast? = some quote.character
  /-- The content does not close the literal. -/
  unclosed : (LiteralContent.read quote content).ending ≠ .closed
  /-- Whatever comes behind the front is scanned as the rest of the literal. -/
  resumes : ∀ other, scan (front ++ other) =
    ofLine policy (Stack.ofLiteral quote opened) other

/-- A scan that goes on like another one behind some text is suspended there as well. -/
theorem Suspension.behind
    {scan later : List Char → Scan}
    {quote : Quote}
    {opened : List Bracket}
    {front content : List Char}
    (suspension : Suspension policy later quote opened front content)
    (covered : List Char)
    (goesOn : ∀ other,
      scan (covered ++ (front ++ other)) = later (front ++ other)) :
    Suspension policy scan quote opened (covered ++ front) content where
  quoted := by
    rw [List.getLast?_append, suspension.quoted]
    rfl
  unclosed := suspension.unclosed
  resumes := by
    intro other
    rw [List.append_assoc, goesOn]
    exact suspension.resumes other

/-- Behind an opening quote, a scan stands inside the literal. -/
theorem run_append_quote
    {half : Bool}
    {quote : Quote}
    {opened : List Bracket}
    {text gap value content : List Char}
    (form : Lexeme.Form text ⟨gap, .quote quote, value, content⟩)
    (continues : policy.continueUnterminatedLiterals = true)
    (other : List Char) :
    Cursor.run policy
        ⟨false, half, Stack.ofCode opened, gap ++ (value ++ other)⟩ =
      ofLine policy (Stack.ofLiteral quote opened) other := by
  have counted : counts policy false = true := rfl
  have step := @Step.reads policy false half (Stack.ofCode opened) _ _ _ _ _ _
    _ _ (form.quote_inv.2 other) counted rfl
  rw [step.run_eq, ofLine_ofLiteral, afterLiteral_code]
  cases ending : (LiteralContent.read quote other).ending with
  | closed => rfl
  | unclosed escaping =>
      have nothing := LiteralContent.rest_of_unclosed
        (by rw [ending]; simp)
      simp [nothing, LiteralEnding.isClosed, continues, run_ofLiteral]

/-- Only an unclosed literal in code leaves a literal on the stack. -/
theorem Step.literal_inv
    {cursor next : Cursor}
    {consumed : List Char}
    {quote : Quote}
    {opened : List Bracket}
    (step : Step policy cursor consumed next)
    (sound : cursor.Sound)
    (suspended : next.stack = Stack.ofLiteral quote opened) :
    cursor.inComment = false ∧ cursor.stack = Stack.ofCode opened ∧
      policy.continueUnterminatedLiterals = true ∧
      ∃ gap content,
        Lexeme.Form cursor.text ⟨gap, .quote quote, [quote.character], content⟩ ∧
        (LiteralContent.read quote content).ending ≠ .closed := by
  cases sound with
  | literal quote opened half =>
      -- No step is taken at the end of a line.
      exact absurd step.length_text_lt (by simp)
  | code before half text =>
      cases step with
      | opens form =>
          exact (Stack.ofComment_ne_ofLiteral [] before _ _ suspended).elim
      | @pushes _ _ _ bracket =>
          exact (Stack.ofCode_ne_ofLiteral (bracket :: before) _ _
            suspended).elim
      | pops form counted partner =>
          exact (Stack.ofCode_ne_ofLiteral before.tail _ _
            (by cases before <;> exact suspended)).elim
      | skips form => exact (Stack.ofCode_ne_ofLiteral before _ _ suspended).elim
      | reads form counted literal =>
          simp only [afterLiteral_code] at suspended
          split at suspended
          · rename_i pushed
            simp only [Bool.and_eq_true, Bool.not_eq_true'] at pushed
            rcases Stack.ofLiteral_injective suspended with ⟨rfl, rfl⟩
            rcases form.quote_inv with ⟨rfl, -⟩
            refine ⟨rfl, rfl, pushed.2, _, _, form, ?_⟩
            rw [literal]
            rintro rfl
            cases pushed.1
          · exact (Stack.ofCode_ne_ofLiteral before _ _ suspended).elim
  | comment inner before half text =>
      cases step with
      | closes form unwound =>
          rw [Stack.unwind_comment] at unwound
          cases unwound
          exact (Stack.ofCode_ne_ofLiteral before _ _ suspended).elim
      | passes =>
          exact (Stack.ofComment_ne_ofLiteral inner before _ _ suspended).elim
      | @pushes _ _ _ bracket =>
          exact (Stack.ofComment_ne_ofLiteral (bracket :: inner) before _ _
            suspended).elim
      | pops form counted partner =>
          cases inner with
          | nil => cases partner
          | cons bracket inner =>
              exact (Stack.ofComment_ne_ofLiteral inner before _ _
                suspended).elim
      | ignores =>
          exact (Stack.ofComment_ne_ofLiteral inner before _ _ suspended).elim
      | reads form counted literal =>
          rw [afterLiteral_comment] at suspended
          exact (Stack.ofComment_ne_ofLiteral inner before _ _ suspended).elim
      | skips =>
          exact (Stack.ofComment_ne_ofLiteral inner before _ _ suspended).elim

theorem Halts.ne_ofLiteral
    {cursor : Cursor}
    {scan : Scan}
    (halts : Halts policy cursor scan)
    (sound : cursor.Sound)
    (fresh : ∀ quote opened, cursor.stack ≠ Stack.ofLiteral quote opened)
    (quote : Quote)
    (opened : List Bracket) :
    scan.stack ≠ Stack.ofLiteral quote opened := by
  cases sound with
  | literal before outer half => exact (fresh before outer rfl).elim
  | code before half text =>
      cases halts with
      | lineEnd => exact Stack.ofCode_ne_ofLiteral before opened quote
      | mismatch => exact Stack.ofCode_ne_ofLiteral before opened quote
  | comment inner before half text =>
      cases halts with
      | lineEnd =>
          unfold atLineEnd
          split
          · rw [Stack.unwind_comment]
            exact Stack.ofCode_ne_ofLiteral before opened quote
          · exact Stack.ofComment_ne_ofLiteral inner before opened quote
      | lost => exact Stack.ofComment_ne_ofLiteral inner before opened quote

theorem Cursor.Sound.run_of_literal
    {cursor : Cursor}
    {quote : Quote}
    {opened : List Bracket}
    (sound : cursor.Sound)
    (suspended : cursor.stack = Stack.ofLiteral quote opened) :
    (cursor.run policy).stack = Stack.ofLiteral quote opened := by
  cases sound with
  | code before => exact (Stack.ofCode_ne_ofLiteral before _ _ suspended).elim
  | comment inner before =>
      exact (Stack.ofComment_ne_ofLiteral inner before _ _ suspended).elim
  | literal =>
      rw [run_ofLiteral]
      exact suspended

/-- The rest of a line that leaves a literal open splits at the opening quote. -/
theorem Cursor.exists_suspension
    {cursor : Cursor}
    {quote : Quote}
    {opened : List Bracket}
    (sound : cursor.Sound)
    (fresh : ∀ quote opened, cursor.stack ≠ Stack.ofLiteral quote opened)
    (suspended : (cursor.run policy).stack = Stack.ofLiteral quote opened) :
    ∃ front content, cursor.text = front ++ content ∧
      Suspension policy (fun text => { cursor with text }.run policy)
        quote opened front content := by
  induction cursor using Cursor.inductionOn policy with
  | halt cursor scan halts =>
      rw [halts.run_eq] at suspended
      exact (halts.ne_ofLiteral sound fresh quote opened suspended).elim
  | step cursor consumed next step induction =>
      rw [step.run_eq] at suspended
      -- The line splits at the first step that leaves a literal on the stack.
      by_cases literal :
          ∃ quote opened, next.stack = Stack.ofLiteral quote opened
      · rcases literal with ⟨before, outer, literal⟩
        rw [(step.sound sound).run_of_literal literal] at suspended
        rcases Stack.ofLiteral_injective suspended with ⟨rfl, rfl⟩
        rcases step.literal_inv sound literal with
          ⟨code, stack, continues, gap, content, form, unclosed⟩
        refine ⟨gap ++ [before.character], content,
          by simpa using form.text_eq, by simp, unclosed, ?_⟩
        intro other
        rcases cursor with ⟨inComment, half, entries, text⟩
        obtain rfl : inComment = false := code
        obtain rfl : entries = Stack.ofCode outer := stack
        simpa using run_append_quote form continues other
      · have later : ∀ quote opened,
            next.stack ≠ Stack.ofLiteral quote opened :=
          fun quote opened equal => literal ⟨quote, opened, equal⟩
        rcases induction (step.sound sound) later suspended with
          ⟨front, content, split, suspension⟩
        refine ⟨consumed ++ front, content, ?_, ?_⟩
        · rw [step.text_eq, split, List.append_assoc]
        · apply suspension.behind consumed
          intro other
          -- The front is not empty, so the step sees the same first character.
          have alike : (front ++ other).head? = next.text.head? := by
            cases front with
            | nil => cases suspension.quoted
            | cons character front => simp [split]
          exact (step.replace_rest alike).run_eq

theorem ofLine_append_content
    {quote : Quote}
    {content : List Char}
    (unclosed : (LiteralContent.read quote content).ending = .unclosed false)
    (opened : List Bracket)
    (line : List Char) :
    ofLine policy (Stack.ofLiteral quote opened) (content ++ line) =
      ofLine policy (Stack.ofLiteral quote opened) line := by
  simp only [ofLine_ofLiteral,
    LiteralContent.read_append_of_unclosed unclosed,
    LiteralContent.ending_prepend, LiteralContent.rest_prepend]

/--
A line that leaves a literal open splits at the opening quote, unless it belongs to
the literal as a whole.
-/
theorem exists_suspension
    {stack : Stack}
    {line : List Char}
    {quote : Quote}
    {opened : List Bracket}
    (shaped : stack.Shaped)
    (suspended : (ofLine policy stack line).stack =
      Stack.ofLiteral quote opened) :
    (stack = Stack.ofLiteral quote opened ∧
        (LiteralContent.read quote line).ending ≠ .closed) ∨
      ∃ front content, line = front ++ content ∧
        Suspension policy (ofLine policy stack) quote opened front content := by
  cases shaped with
  | code before =>
      rw [ofLine_ofCode] at suspended
      rw [funext (ofLine_ofCode policy before)]
      exact .inr (Cursor.exists_suspension (.code before _ _)
        (fun _ _ => Stack.ofCode_ne_ofLiteral before _ _) suspended)
  | comment inner before =>
      rw [ofLine_ofComment] at suspended
      rw [funext (ofLine_ofComment policy inner before)]
      exact .inr (Cursor.exists_suspension (.comment inner before _ _)
        (fun _ _ => Stack.ofComment_ne_ofLiteral inner before _ _) suspended)
  | literal outer before =>
      rw [ofLine_ofLiteral] at suspended
      cases ending : (LiteralContent.read outer line).ending with
      | unclosed escaping =>
          rw [ending] at suspended
          rcases Stack.ofLiteral_injective suspended with ⟨rfl, rfl⟩
          exact .inl ⟨rfl, by simp [ending]⟩
      | closed =>
          rw [ending] at suspended
          rcases Cursor.exists_suspension (.code before _ _)
              (fun _ _ => Stack.ofCode_ne_ofLiteral before _ _) suspended with
            ⟨front, content, split, suspension⟩
          have covered := LiteralContent.read_append outer line
          rw [show (LiteralContent.read outer line).rest = front ++ content
            from split, ← List.append_assoc] at covered
          refine .inr ⟨_, content, covered.symm, suspension.behind _ ?_⟩
          intro other
          rw [ofLine_ofLiteral, LiteralContent.read_append_of_closed ending]
          rfl

end Scan

end Delimit
