import Delimit.Proofs.OffsetScan

/-!
# Scans by offsets are scans

The offset of a state is the length of the text before a cursor.  Every step of a
scan is then a turn that goes on, and a scan that halts with a sound stack is a
turn that ends: the entry that is taken off is there, a quote stands where a
literal is read, and a partner is looked up for closing brackets only.  No
operation of a scan from a stack of sound shape fails, and the scan comes to the
same.
-/

namespace Delimit

theorem readAt_of_form
    {text gap value rest : List Char}
    {kind : TokenKind}
    (form : Lexeme.Form text ⟨gap, kind, value, rest⟩)
    (front : List Char) :
    Token.readAt (front ++ text) front.length =
      { kind
        value
        start := (front ++ gap).length
        stop := (front ++ (gap ++ value)).length } := by
  simp only [Token.readAt, List.length_append, Nat.le_add_right, Nat.min_eq_left,
    List.drop_left, form.next_eq, Token.ofLexeme, Nat.add_assoc]

theorem startingAt_of_form
    {text gap value content covered rest : List Char}
    {quote : Quote}
    {ending : LiteralEnding}
    (form : Lexeme.Form text ⟨gap, .quote quote, value, content⟩)
    (literal : LiteralContent.read quote content = ⟨covered, ending, rest⟩)
    (front : List Char) :
    QuotedLiteral.startingAt (front ++ text) (front ++ gap).length =
      .ok
        { quote
          start := (front ++ gap).length
          stop := (front ++ (gap ++ (value ++ covered))).length
          terminated := ending.isClosed } := by
  have spelled : value = [quote.character] := form.quote_inv.1
  have whole : front ++ text =
      (front ++ gap) ++ quote.character :: content := by
    rw [form.text_eq, spelled]
    simp
  have behind : (front ++ text).drop ((front ++ gap).length + 1) = content := by
    rw [whole, List.drop_length_add_append]
    rfl
  have here : (front ++ text)[(front ++ gap).length]? =
      some quote.character := by
    rw [whole]
    simp
  simp only [QuotedLiteral.startingAt, here, Option.bind_some,
    Quote.ofCharacter?_character, QuotedLiteral.spanning, behind, literal, spelled]
  simp only [List.length_append, List.length_cons, List.length_nil]
  congr 2
  omega

/-- An entry that is on top can be taken off. -/
theorem Stack.pop_of_top?
    {stack : Stack}
    {entry : Entry}
    (top : stack.top? = some entry) :
    stack.pop = .ok (entry, stack.tail) := by
  rcases stack with ⟨_ | ⟨first, below⟩⟩
  · cases top
  · cases top
    rfl

namespace OffsetScan

open Scan (Cursor Step Halts completes completes_eq_false counts
  beq_markerStart_eq_false)

/-- Where a cursor stands behind the front of its line. -/
def State.behind
    (front : List Char)
    (cursor : Cursor) :
    State :=
  { offset := front.length
    inComment := cursor.inComment
    halfEnd? := if cursor.half then some front.length else none
    stack := cursor.stack }

variable {policy : Policy}

theorem completes_iff
    (inComment half : Bool)
    (front gap : List Char)
    (kind : TokenKind) :
    (if half then some front.length else none) = some (front ++ gap).length ∧
        kind = Scan.markerStop inComment ↔
      completes inComment half gap kind = true := by
  cases half <;> cases gap <;> simp [completes]

/-- A turn marks at a token that completes the marker. -/
theorem turn_of_completes
    {inComment : Bool}
    {stack : Stack}
    {text value rest : List Char}
    (form : Lexeme.Form text ⟨[], Scan.markerStop inComment, value, rest⟩)
    (front : List Char) :
    turn policy (front ++ text)
        (State.behind front ⟨inComment, true, stack, text⟩) =
      Turn.goesOn <$> mark (State.behind front ⟨inComment, true, stack, text⟩)
        { kind := Scan.markerStop inComment
          value
          start := front.length
          stop := (front ++ value).length } := by
  unfold turn
  simp only [State.behind, readAt_of_form form, List.append_nil, List.nil_append,
    if_true, and_self]
  rfl

/-- A turn finishes at the end of the line. -/
theorem turn_of_endOfLine
    {inComment half : Bool}
    {stack : Stack}
    {text gap swallowed rest : List Char}
    (form : Lexeme.Form text ⟨gap, .endOfLine, swallowed, rest⟩)
    (front : List Char) :
    turn policy (front ++ text)
        (State.behind front ⟨inComment, half, stack, text⟩) =
      if inComment && CommentTrend.ofText swallowed == .closes then
        (Turn.ends ∘ Scan.finished) <$>
          (stack.unwind .comment).mapError ScanFault.stack
      else
        .ok (.ends (Scan.finished stack)) := by
  have whole : text = gap ++ swallowed := by
    rcases form.endOfLine_inv with ⟨rfl, rfl⟩ | ⟨comment, rfl, rfl⟩
    · rw [List.append_nil]
    · rfl
  have behind : (front ++ text).drop (front ++ gap).length = swallowed := by
    rw [whole, ← List.append_assoc, List.drop_left]
  have unmarked : TokenKind.endOfLine ≠ Scan.markerStop inComment := by
    cases inComment <;> decide
  unfold turn finish
  simp only [State.behind, readAt_of_form form, unmarked, and_false, if_false,
    if_true, behind]
  split
  · cases stack.unwind .comment <;> rfl
  · rfl

/-- Any other token counts, unless the policy passes over comments. -/
theorem turn_of_incomplete
    {inComment half : Bool}
    {stack : Stack}
    {kind : TokenKind}
    {text gap value rest : List Char}
    (form : Lexeme.Form text ⟨gap, kind, value, rest⟩)
    (inner : kind ≠ .endOfLine)
    (incomplete : completes inComment half gap kind = false)
    (front : List Char) :
    let next := State.behind (front ++ (gap ++ value))
      ⟨inComment, kind == Scan.markerStart inComment, stack, rest⟩
    turn policy (front ++ text)
        (State.behind front ⟨inComment, half, stack, text⟩) =
      if counts policy inComment then
        count policy (front ++ text)
          { kind
            value
            start := (front ++ gap).length
            stop := (front ++ (gap ++ value)).length }
          next
      else
        .ok (.goesOn next) := by
  have suppressed : (inComment && !policy.commentBracketParity) =
      !counts policy inComment := by
    simp [counts]
  unfold turn
  simp only [State.behind, readAt_of_form form, completes_iff, incomplete, inner,
    suppressed, Bool.false_eq_true, if_false, beq_iff_eq]
  cases counts policy inComment <;> rfl

/-- A bracket or a quote that counts is no half of a marker. -/
theorem turn_of_lively
    {inComment half : Bool}
    {stack : Stack}
    {kind : TokenKind}
    {text gap value rest : List Char}
    (form : Lexeme.Form text ⟨gap, kind, value, rest⟩)
    (inner : kind ≠ .endOfLine)
    (lively : Scan.isInert kind = false)
    (counted : counts policy inComment = true)
    (front : List Char) :
    turn policy (front ++ text)
        (State.behind front ⟨inComment, half, stack, text⟩) =
      count policy (front ++ text)
        { kind
          value
          start := (front ++ gap).length
          stop := (front ++ (gap ++ value)).length }
        (State.behind (front ++ (gap ++ value))
          ⟨inComment, false, stack, rest⟩) := by
  rw [turn_of_incomplete form inner (completes_eq_false _ _ _ _ lively),
    if_pos counted, beq_markerStart_eq_false _ _ lively]

/-- A closing bracket finds its partner and the entry that it takes off. -/
theorem count_of_partner
    {bracket : Bracket}
    {line value : List Char}
    {start stop : Nat}
    {state : State}
    (partner : state.stack.top? = some (.bracket (.opening bracket))) :
    count policy line ⟨.closing bracket, value, start, stop⟩ state =
      .ok (.goesOn { state with stack := state.stack.tail }) := by
  change (if state.stack.top? = some (.bracket (.opening bracket)) then _
    else _) = _
  rw [if_pos partner, Stack.pop_of_top? partner]
  rfl

/-- A closing bracket without a partner takes nothing off. -/
theorem count_of_single
    {bracket : Bracket}
    {line value : List Char}
    {start stop : Nat}
    {state : State}
    (single : state.stack.top? ≠ some (.bracket (.opening bracket))) :
    count policy line ⟨.closing bracket, value, start, stop⟩ state =
      if state.inComment then
        .ok (.goesOn state)
      else
        .ok (.ends (Scan.abandoned state.stack)) := by
  change (if state.stack.top? = some (.bracket (.opening bracket)) then _
    else _) = _
  rw [if_neg single]
  rfl

/-- A literal begins at a quote. -/
theorem count_of_literal
    {quote : Quote}
    {line value : List Char}
    {start stop : Nat}
    {state : State}
    {literal : QuotedLiteral}
    (found : QuotedLiteral.startingAt line start = .ok literal) :
    count policy line ⟨.quote quote, value, start, stop⟩ state =
      .ok (.goesOn
        { state with
          offset := literal.stop
          stack :=
            if !literal.terminated && !state.inComment &&
                policy.continueUnterminatedLiterals then
              state.stack.push (.literal (.quote quote))
            else
              state.stack }) := by
  change (QuotedLiteral.startingAt line start).mapError ScanFault.literal >>= _ = _
  rw [found]
  rfl

/-- A step of a scan is a turn that goes on behind what the step reads. -/
theorem turn_of_step
    {cursor next : Cursor}
    {consumed : List Char}
    (step : Step policy cursor consumed next)
    (front : List Char) :
    turn policy (front ++ cursor.text) (State.behind front cursor) =
      .ok (.goesOn (State.behind (front ++ consumed) next)) := by
  cases step with
  | opens form => exact turn_of_completes form front
  | closes form unwound =>
      rw [turn_of_completes form]
      simp only [mark, State.behind, unwound]
      rfl
  | passes form inner incomplete uncounted =>
      rw [turn_of_incomplete form inner incomplete]
      simp only [counts, uncounted]
      rfl
  | pushes form counted =>
      rw [turn_of_lively form (by simp) rfl counted]
      rfl
  | pops form counted partner =>
      rw [turn_of_lively form (by simp) rfl counted, count_of_partner partner]
      rfl
  | ignores form counted single =>
      rw [turn_of_lively form (by simp) rfl counted, count_of_single single]
      rfl
  | reads form counted literal =>
      rw [turn_of_lively form (by simp) rfl counted,
        count_of_literal (startingAt_of_form form literal front)]
      rfl
  | @skips _ _ _ kind _ _ _ _ form inert incomplete counted =>
      have inner : kind ≠ .endOfLine := by
        rintro rfl
        cases inert
      rw [turn_of_incomplete form inner incomplete, if_pos counted]
      cases kind <;> first | rfl | cases inert

/-- A turn ends where a scan from a stack of sound shape halts. -/
theorem turn_of_halts
    {cursor : Cursor}
    {scan : Scan}
    (halts : Halts policy cursor scan)
    (sound : cursor.Sound)
    (front : List Char) :
    turn policy (front ++ cursor.text) (State.behind front cursor) =
      .ok (.ends scan) := by
  cases halts with
  | @lineEnd inComment half stack text gap swallowed rest form =>
      rw [turn_of_endOfLine form]
      cases sound with
      | code opened => rfl
      | literal quote opened => rfl
      | comment inner opened =>
          rw [Scan.atLineEnd, Stack.unwind_comment]
          split <;> rfl
  | mismatch form single =>
      rw [turn_of_lively form (by simp) rfl rfl, count_of_single single]
      rfl
  | lost form missing =>
      cases sound with
      | comment inner opened =>
          rw [Stack.unwind_comment] at missing
          cases missing

theorem run_of_goesOn
    {line : List Char}
    {state next : State}
    (taken : turn policy line state = .ok (.goesOn next)) :
    run policy line state = run policy line next := by
  rw [run]
  split <;> simp_all

theorem run_of_ends
    {line : List Char}
    {state : State}
    {scan : Scan}
    (ended : turn policy line state = .ok (.ends scan)) :
    run policy line state = .ok scan := by
  rw [run]
  split <;> simp_all

/-- Turn by turn, a scan by offsets comes to the same as a scan. -/
theorem run_behind
    {cursor : Cursor}
    (sound : cursor.Sound)
    (front : List Char) :
    run policy (front ++ cursor.text) (State.behind front cursor) =
      .ok (cursor.run policy) := by
  induction cursor using Cursor.inductionOn policy generalizing front with
  | halt cursor scan halts =>
      rw [run_of_ends (turn_of_halts halts sound front), halts.run_eq]
  | step cursor consumed next step induction =>
      -- What the step reads moves to the front; the line stays the same.
      rw [run_of_goesOn (turn_of_step step front), step.run_eq, step.text_eq,
        ← List.append_assoc]
      exact induction (step.sound sound) (front ++ consumed)

theorem begin_eq_behind
    {inComment : Bool}
    {stack : Stack}
    (agrees : stack.inComment = inComment)
    (front rest : List Char) :
    begin stack front.length =
      State.behind front ⟨inComment, false, stack, rest⟩ := by
  subst agrees
  rfl

/-- A scan by offsets of code comes to the same as a scan. -/
theorem run_begin_ofCode
    (opened : List Bracket)
    (front rest : List Char) :
    run policy (front ++ rest) (begin (.ofCode opened) front.length) =
      .ok (Cursor.run policy ⟨false, false, .ofCode opened, rest⟩) := by
  rw [begin_eq_behind (Stack.inComment_ofCode opened) front rest]
  exact run_behind (.code opened false rest) front

/-- An open literal is taken off the stack where it is closed. -/
theorem ofLine_of_literal
    (quote : Quote)
    (opened : List Bracket)
    (line : List Char) :
    ofLine policy (.ofLiteral quote opened) line =
      if (QuotedLiteral.continued quote line 0).terminated then
        run policy line
          (begin (.ofCode opened) (QuotedLiteral.continued quote line 0).stop)
      else
        .ok (Scan.finished (.ofLiteral quote opened)) := rfl

/-- A scan by offsets of a whole line comes to the same as a scan, and never fails. -/
theorem ofLine_of_shaped
    {stack : Stack}
    (shaped : stack.Shaped)
    (line : List Char) :
    ofLine policy stack line = .ok (Scan.ofLine policy stack line) := by
  cases shaped with
  | code opened =>
      have begun : run policy _ _ = _ := run_begin_ofCode opened [] line
      rw [Scan.ofLine_ofCode, ← begun]
      cases opened <;> rfl
  | comment inner opened =>
      have begun : run policy _ _ = _ :=
        run_behind (.comment inner opened false line) []
      rw [← begin_eq_behind (Stack.inComment_ofComment inner opened)] at begun
      rw [Scan.ofLine_ofComment, ← begun]
      cases inner <;> rfl
  | literal quote opened =>
      generalize found : LiteralContent.read quote line = content
      rcases content with ⟨covered, ending, rest⟩
      have whole : covered ++ rest = line := LiteralContent.append_of_read found
      have literal : QuotedLiteral.continued quote line 0 =
          ⟨quote, 0, covered.length, ending.isClosed⟩ := by
        simp [QuotedLiteral.continued, QuotedLiteral.spanning, found]
      rw [ofLine_of_literal, literal, Scan.ofLine_ofLiteral, found]
      cases ending with
      | closed =>
          have begun : run policy _ _ = _ :=
            run_begin_ofCode opened covered rest
          rwa [whole] at begun
      | unclosed escaping => rfl

end OffsetScan

end Delimit
