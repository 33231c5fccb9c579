import Delimit.Proofs.CheckedOperations
import Delimit.Proofs.IndexedReading

/-!
# Scans of what is left

A scan by offsets keeps its place in the line, the end of half a marker, and nothing
else that is counted from the beginning of the line.  Put behind other text and with its
offsets moved along, every turn of it does the same, so the whole scan does.

A line that goes on with a literal and closes it is therefore scanned like the line that
is left behind the literal, once the literal is off the stack.
-/

namespace Delimit

/-! ## Tokens and literals further along -/

theorem Token.readAt_append
    (front text : List Char)
    (offset : Nat) :
    Token.readAt (front ++ text) (front.length + offset) =
      (Token.readAt text offset).shift front.length := by
  simp only [← Token.indexed_eq_readAt, Token.indexed_append]

/-- A text is read as the text that is left at an offset, further along. -/
theorem Token.readAt_eq_shift
    {text : List Char}
    {offset : Nat}
    (inside : offset ≤ text.length) :
    Token.readAt text offset = (Token.readAt (text.drop offset) 0).shift offset := by
  have moved := Token.readAt_append (text.take offset) (text.drop offset) 0
  rwa [List.take_append_drop, List.length_take_of_le inside] at moved

theorem QuotedLiteral.indexed_eq_shift
    {text : List Char}
    {offset : Nat}
    (inside : offset ≤ text.length)
    (closing? : Option (List Char)) :
    QuotedLiteral.indexed text offset closing? =
      ((QuotedLiteral.indexed (text.drop offset) 0 closing?).map (shift offset)).mapError
        (SkipFault.shift offset) := by
  have moved := QuotedLiteral.indexed_append (text.take offset) (text.drop offset) 0 closing?
  rwa [List.take_append_drop, List.length_take_of_le inside] at moved

/-- A fault that a scan meets further along in a line. -/
def ScanFault.shift
    (distance : Nat) :
    ScanFault → ScanFault
  | literal fault => .literal ⟨distance + fault.offset⟩
  | fault => fault

theorem QuotedLiteral.startingAt_append
    (front text : List Char)
    (offset : Nat) :
    (startingAt (front ++ text) (front.length + offset)).mapError ScanFault.literal =
      (((startingAt text offset).mapError ScanFault.literal).map (shift front.length)).mapError
        (ScanFault.shift front.length) := by
  have spans (quote : Quote) :
      spanning quote (front ++ text) (front.length + offset) (front.length + offset + 1) =
        (spanning quote text offset (offset + 1)).shift front.length := by
    rw [← indexedFrom_eq_spanning, ← indexedFrom_eq_spanning, Nat.add_assoc,
      indexedFrom_append]
  unfold startingAt
  rw [getElem?_behind]
  cases text[offset]?.bind Quote.ofCharacter? with
  | none => rfl
  | some quote => exact congrArg Except.ok (spans quote)

namespace OffsetScan

/-! ## Turns further along -/

/-- A state of a scan further along in its line. -/
def State.shift
    (distance : Nat)
    (state : State) :
    State :=
  { state with
    offset := distance + state.offset
    halfEnd? := state.halfEnd?.map (distance + ·) }

/-- What comes of a turn further along in a line. -/
def Turn.shift
    (distance : Nat) :
    Turn → Turn
  | goesOn state => .goesOn (state.shift distance)
  | ends scan => .ends scan

theorem mark_shift
    (distance : Nat)
    (state : State)
    (token : Token) :
    mark (state.shift distance) (token.shift distance) =
      ((mark state token).map (State.shift distance)).mapError
        (ScanFault.shift distance) := by
  unfold mark
  change (if state.inComment then _ else _) = _
  split
  · change (state.stack.unwind .comment).mapError ScanFault.stack >>= _ = _
    cases state.stack.unwind .comment <;> rfl
  · rfl

theorem finish_append
    (front line : List Char)
    (state : State)
    (token : Token) :
    finish (front ++ line) (state.shift front.length) (token.shift front.length) =
      (finish line state token).mapError (ScanFault.shift front.length) := by
  have swallowed : (front ++ line).drop (token.shift front.length).start =
      line.drop token.start := List.drop_length_add_append _
  unfold finish
  rw [swallowed]
  change (if state.inComment && _ then _ else _) = _
  split
  · change (state.stack.unwind .comment).mapError ScanFault.stack >>= _ = _
    cases state.stack.unwind .comment <;> rfl
  · rfl

variable {policy : Policy}

theorem count_append
    (front line : List Char)
    (token : Token)
    (state : State) :
    count policy (front ++ line) (token.shift front.length) (state.shift front.length) =
      ((count policy line token state).map (Turn.shift front.length)).mapError
        (ScanFault.shift front.length) := by
  have literals := QuotedLiteral.startingAt_append front line token.start
  unfold count
  change (if token.kind.isOpening then _ else _) = _
  split
  · rfl
  · change (if token.kind.isClosing then _ else _) = _
    split
    · change token.kind.partner.mapError ScanFault.partner >>= _ = _
      cases token.kind.partner with
      | error fault => rfl
      | ok partner =>
          change (if state.stack.top? = some (.bracket partner) then _ else _) =
            Except.mapError _ (Except.map _
              (if state.stack.top? = some (.bracket partner) then _ else _))
          split
          · change state.stack.pop.mapError ScanFault.stack >>= _ = _
            cases state.stack.pop <;> rfl
          · change (if state.inComment then _ else _) = Except.mapError _ (Except.map _
              (if state.inComment then _ else _))
            split <;> rfl
    · change (if token.kind.isLiteralStart then _ else _) = _
      split
      · change (QuotedLiteral.startingAt (front ++ line)
          (front.length + token.start)).mapError ScanFault.literal >>= _ = _
        rw [literals]
        cases QuotedLiteral.startingAt line token.start <;> rfl
      · rfl

/-- The state behind a token that completes no marker. -/
def State.behindToken
    (state : State)
    (token : Token) :
    State :=
  { state with
    offset := token.stop
    halfEnd? :=
      if token.kind = Scan.markerStart state.inComment then
        some token.stop
      else
        none }

theorem behindToken_shift
    (distance : Nat)
    (state : State)
    (token : Token) :
    (state.shift distance).behindToken (token.shift distance) =
      (state.behindToken token).shift distance := by
  change State.mk _ _ (if token.kind = Scan.markerStart state.inComment then _ else _) _ =
    State.mk _ _ (Option.map _
      (if token.kind = Scan.markerStart state.inComment then _ else _)) _
  split <;> rfl

/-- Put behind other text, a turn does the same further along. -/
theorem turn_append
    (front line : List Char)
    (state : State) :
    turn policy (front ++ line) (state.shift front.length) =
      ((turn policy line state).map (Turn.shift front.length)).mapError
        (ScanFault.shift front.length) := by
  have read : Token.readAt (front ++ line) (state.shift front.length).offset =
      (Token.readAt line state.offset).shift front.length :=
    Token.readAt_append front line state.offset
  unfold turn
  rw [read]
  generalize Token.readAt line state.offset = token
  have completed : (state.shift front.length).halfEnd? =
        some (token.shift front.length).start ↔
      state.halfEnd? = some token.start := by
    cases ended : state.halfEnd? <;> simp [State.shift, Token.shift, ended]
  dsimp only
  by_cases marks : state.halfEnd? = some token.start ∧
      token.kind = Scan.markerStop state.inComment
  · have marked := mark_shift front.length state token
    rw [if_pos marks, if_pos ⟨completed.mpr marks.1, marks.2⟩, marked]
    cases mark state token <;> rfl
  · rw [if_neg marks, if_neg fun moved => marks ⟨completed.mp moved.1, moved.2⟩]
    change (if token.kind = .endOfLine then _ else _) = _
    by_cases ends : token.kind = .endOfLine
    · rw [if_pos ends, if_pos ends, finish_append]
      cases finish line state token <;> rfl
    · rw [if_neg ends, if_neg ends]
      change (if state.inComment && !policy.commentBracketParity then
          .ok (.goesOn ((state.shift front.length).behindToken (token.shift front.length)))
        else
          count policy (front ++ line) (token.shift front.length)
            ((state.shift front.length).behindToken (token.shift front.length))) = _
      rw [behindToken_shift, count_append]
      change _ = Except.mapError _ (Except.map _
        (if state.inComment && !policy.commentBracketParity then
          .ok (.goesOn (state.behindToken token))
        else
          count policy line token (state.behindToken token)))
      split <;> rfl

theorem run_of_error
    {line : List Char}
    {state : State}
    {fault : ScanFault}
    (failed : turn policy line state = .error fault) :
    run policy line state = .error fault := by
  rw [run]
  split <;> simp_all

/-- Put behind other text, a scan comes to the same. -/
theorem run_append
    (front line : List Char)
    (state : State) :
    run policy (front ++ line) (state.shift front.length) =
      (run policy line state).mapError (ScanFault.shift front.length) := by
  have moved (state : State) := @turn_append policy front line state
  -- The induction is on the turns of the scan of the text that is left.
  fun_induction run policy line state with
  | case1 state fault failed => exact run_of_error (by rw [moved, failed]; rfl)
  | case2 state scan ended => exact run_of_ends (by rw [moved, ended]; rfl)
  | case3 state next taken induction =>
      rw [← induction]
      exact run_of_goesOn (by rw [moved, taken]; rfl)

/-- A scan that begins further along is the scan of the text that is left there. -/
theorem run_begin_eq
    (stack : Stack)
    {line : List Char}
    {offset : Nat}
    (inside : offset ≤ line.length) :
    run policy line (begin stack offset) =
      (run policy (line.drop offset) (begin stack 0)).mapError (ScanFault.shift offset) := by
  have moved := @run_append policy (line.take offset) (line.drop offset) (begin stack 0)
  rwa [List.take_append_drop, List.length_take_of_le inside] at moved

theorem stop_continued_le
    (quote : Quote)
    (line : List Char) :
    (QuotedLiteral.continued quote line 0).stop ≤ line.length := by
  have whole := congrArg List.length (LiteralContent.read_append quote line)
  rw [List.length_append] at whole
  change 0 + (LiteralContent.read quote line).covered.length ≤ line.length
  omega

/-- A line that closes a literal is scanned like what is left of it behind the literal. -/
theorem ofLine_of_closed
    {quote : Quote}
    {line : List Char}
    (closed : (QuotedLiteral.continued quote line 0).terminated = true)
    (opened : List Bracket) :
    ofLine policy (.ofLiteral quote opened) line =
      (ofLine policy (.ofCode opened)
          (line.drop (QuotedLiteral.continued quote line 0).stop)).mapError
        (ScanFault.shift (QuotedLiteral.continued quote line 0).stop) := by
  have outside (line : List Char) :
      ofLine policy (.ofCode opened) line = run policy line (begin (.ofCode opened) 0) := by
    cases opened <;> rfl
  rw [ofLine_of_literal, if_pos closed, outside]
  exact run_begin_eq _ (stop_continued_le quote line)

end OffsetScan

/-- What is left of a line behind its literal is scanned like the line. -/
theorem Scan.ofLine_of_closed
    (policy : Policy)
    {quote : Quote}
    {line : List Char}
    (closed : (QuotedLiteral.continued quote line 0).terminated = true)
    (opened : List Bracket) :
    ofLine policy (.ofLiteral quote opened) line =
      ofLine policy (.ofCode opened)
        (line.drop (QuotedLiteral.continued quote line 0).stop) := by
  have same := @OffsetScan.ofLine_of_closed policy quote line closed opened
  rw [OffsetScan.ofLine_of_shaped (.literal quote opened),
    OffsetScan.ofLine_of_shaped (.code opened)] at same
  exact Except.ok.inj same

namespace Validator

/-- A literal that can be taken off a sound stack is a quote's, with brackets below. -/
theorem Reachable.of_pop_literal
    {validator : Validator}
    (reachable : validator.Reachable)
    {kind : TokenKind}
    {rest : Stack}
    (popped : validator.stack.pop = .ok (.literal kind, rest)) :
    ∃ quote opened, kind = .quote quote ∧ rest = .ofCode opened ∧
      validator.stack = .ofLiteral quote opened := by
  have shaped := reachable.shaped
  generalize validator.stack = stack at popped shaped
  cases shaped with
  | code opened => cases opened <;> cases popped
  | comment inner opened => cases inner <;> cases popped
  | literal quote opened =>
      cases popped
      exact ⟨quote, opened, rfl, rfl, rfl⟩

/--
Tokens and literals are read as they are by index.  Reading at an offset depends on the
text that is left alone: tokens are those of that text, literals are those of that text
or are missed as in it, and a scan that begins there comes to the same.  So whatever was
done to a validator, a line that closes its literal gets the verdict and leaves the
stack that the rest of the line gets and leaves once the literal is popped.
-/
theorem reading_depends_on_suffix :
    (∀ (text : List Char) (offset : Nat),
      Token.indexed text offset = Token.readAt text offset ∧
        QuotedLiteral.indexed text offset none =
          (QuotedLiteral.startingAt text offset).mapError .noLiteral ∧
        ∀ quote : Quote, QuotedLiteral.indexed text offset (some [quote.character]) =
          .ok (QuotedLiteral.continued quote text offset)) ∧
      (∀ (text : List Char) (offset : Nat), offset ≤ text.length →
        Token.readAt text offset = (Token.readAt (text.drop offset) 0).shift offset ∧
        ∀ closing?, QuotedLiteral.indexed text offset closing? =
          ((QuotedLiteral.indexed (text.drop offset) 0 closing?).map
            (QuotedLiteral.shift offset)).mapError (SkipFault.shift offset)) ∧
      (∀ (policy : Policy) (stack : Stack) (line : List Char) (offset : Nat),
        offset ≤ line.length →
          OffsetScan.run policy line (OffsetScan.begin stack offset) =
            (OffsetScan.run policy (line.drop offset) (OffsetScan.begin stack 0)).mapError
              (ScanFault.shift offset)) ∧
      ∀ (validator : Validator), validator.Reachable →
        ∀ (kind : TokenKind) (rest : Stack),
          validator.stack.pop = .ok (.literal kind, rest) →
            ∃ quote : Quote, kind = .quote quote ∧
              ∀ (line : List Char) (literal : QuotedLiteral),
                QuotedLiteral.indexed line 0 (some [quote.character]) = .ok literal →
                  literal.terminated = true →
                    let after := { validator with stack := rest }.validate
                      (line.drop literal.stop)
                    (validator.validate line).1 = after.1 ∧
                      (validator.validate line).2.stack = after.2.stack := by
  refine ⟨fun text offset => ?_, fun text offset inside => ?_, ?_, ?_⟩
  · exact ⟨Token.indexed_eq_readAt text offset, QuotedLiteral.indexed_eq text offset⟩
  · exact ⟨Token.readAt_eq_shift inside, QuotedLiteral.indexed_eq_shift inside⟩
  · exact fun policy stack line offset inside => OffsetScan.run_begin_eq stack inside
  · intro validator reachable kind rest popped
    obtain ⟨quote, opened, rfl, rfl, stack⟩ := reachable.of_pop_literal popped
    refine ⟨quote, rfl, fun line literal found terminated => ?_⟩
    obtain rfl := Except.ok.inj (((QuotedLiteral.indexed_eq line 0).2 quote).symm.trans found)
    have same := Scan.ofLine_of_closed validator.policy terminated opened
    rw [← stack] at same
    intro after
    exact ⟨congrArg verdictOf same, congrArg Scan.stack same⟩

/-- A validator whose line ended inside a literal behind an open bracket. -/
def inOpenLiteral : Validator := ((new {}).validate "f(\"a\\".toList).2

/-- A line that closes the literal, and the bracket before it, with marks in both parts. -/
def closingText : List Char := "//\\\\\" +/*) */)".toList

/-- The line is read on behind the literal, whose own marks do not count. -/
theorem reading_depends_on_suffix_closingText :
    5 ≤ closingText.length ∧
      Token.readAt closingText 5 = (Token.readAt (closingText.drop 5) 0).shift 5 ∧
      inOpenLiteral.Reachable ∧
      inOpenLiteral.stack.pop = .ok (.literal (.quote .double), .ofCode [.paren]) ∧
      (QuotedLiteral.continued .double closingText 0).terminated = true ∧
      let after := { inOpenLiteral with stack := .ofCode [.paren] }.validate
        (closingText.drop (QuotedLiteral.continued .double closingText 0).stop)
      (inOpenLiteral.validate closingText).1 = after.1 ∧
        (inOpenLiteral.validate closingText).2.stack = after.2.stack := by
  have inside : 5 ≤ closingText.length := by decide
  have reachable : inOpenLiteral.Reachable := (Reachable.new {}).validate _
  have stack : inOpenLiteral.stack = .ofLiteral .double [.paren] := by decide +kernel
  have popped : inOpenLiteral.stack.pop =
      .ok (.literal (.quote .double), .ofCode [.paren]) := by
    rw [stack]
    rfl
  have closed : (QuotedLiteral.continued .double closingText 0).terminated = true := by
    decide +kernel
  obtain ⟨indexed, further, -, validators⟩ := reading_depends_on_suffix
  obtain ⟨quote, same, scans⟩ := validators inOpenLiteral reachable _ _ popped
  cases same
  exact ⟨inside, (further closingText 5 inside).1, reachable, popped, closed,
    scans closingText _ ((indexed closingText 0).2.2 .double) closed⟩

end Validator

end Delimit
