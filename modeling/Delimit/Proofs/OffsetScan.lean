import Delimit.Proofs.ValidatorRun
import Delimit.Walk

/-!
# A scan by offsets

A scan can also be put with offsets into its line and with operations that may
fail: an entry is taken off a stack that has to hold it, a literal is read at an
offset where a quote has to stand, and the partner of a token is looked up, which
has to be a closing bracket.  A turn reads one token and says where the scan goes on
or how it ends; any operation that fails makes the whole scan fail.

Every turn goes on further along the line, so the turns come to an end.
-/

namespace Delimit

/-- The ways in which an operation of a scan can fail. -/
inductive ScanFault where
  /-- An entry was to be taken off a stack that does not hold it. -/
  | stack (fault : StackFault)
  /-- A literal was to be read where none begins. -/
  | literal (fault : NoLiteral)
  /-- A partner was looked up for a token that is no closing bracket. -/
  | partner (fault : TokenKind.NotClosing)
  /-- A literal was to be continued up to a token that is no quote. -/
  | quote (kind : TokenKind)

namespace OffsetScan

/-- Where a scan stands between two tokens. -/
structure State where
  /-- The offset at which the next token is looked for. -/
  offset : Nat
  /-- Whether a comment is open. -/
  inComment : Bool
  /-- The end of the token just before, if it begins the marker that is looked for. -/
  halfEnd? : Option Nat
  /-- The delimiters that are open. -/
  stack : Stack

/-- What comes of a turn. -/
inductive Turn where
  | goesOn (state : State)
  | ends (scan : Scan)

/-- Acts on a token that completes the marker that is looked for. -/
def mark
    (state : State)
    (token : Token) :
    Except ScanFault State :=
  if state.inComment then do
    let below ← (state.stack.unwind .comment).mapError .stack
    return ⟨token.stop, false, none, below⟩
  else
    return ⟨token.stop, true, none, state.stack.push .comment⟩

/-- Acts on the end of the line. -/
def finish
    (line : List Char)
    (state : State)
    (token : Token) :
    Except ScanFault Scan :=
  if state.inComment &&
      CommentTrend.ofText (line.drop token.start) == .closes then do
    let below ← (state.stack.unwind .comment).mapError .stack
    return Scan.finished below
  else
    return Scan.finished state.stack

/-- Acts on a token that counts, which the state is already behind. -/
def count
    (policy : Policy)
    (line : List Char)
    (token : Token)
    (state : State) :
    Except ScanFault Turn :=
  if token.kind.isOpening then
    return .goesOn
      { state with stack := state.stack.push (.bracket token.kind) }
  else if token.kind.isClosing then do
    let partner ← token.kind.partner.mapError .partner
    if state.stack.top? = some (.bracket partner) then
      let (_, below) ← state.stack.pop.mapError .stack
      return .goesOn { state with stack := below }
    else if state.inComment then
      return .goesOn state
    else
      return .ends (Scan.abandoned state.stack)
  else if token.kind.isLiteralStart then do
    let literal ←
      (QuotedLiteral.startingAt line token.start).mapError .literal
    let stack :=
      if !literal.terminated && !state.inComment &&
          policy.continueUnterminatedLiterals then
        state.stack.push (.literal token.kind)
      else
        state.stack
    return .goesOn { state with offset := literal.stop, stack }
  else
    return .goesOn state

/-- Reads one token, with the literal that it begins. -/
def turn
    (policy : Policy)
    (line : List Char)
    (state : State) :
    Except ScanFault Turn :=
  let token := Token.readAt line state.offset
  if state.halfEnd? = some token.start ∧
      token.kind = Scan.markerStop state.inComment then do
    return .goesOn (← mark state token)
  else if token.kind = .endOfLine then do
    return .ends (← finish line state token)
  else
    let halfEnd? :=
      if token.kind = Scan.markerStart state.inComment then
        some token.stop
      else
        none
    let next : State := { state with offset := token.stop, halfEnd? }
    if state.inComment && !policy.commentBracketParity then
      return .goesOn next
    else
      count policy line token next

/-- A token that does not end the line is read further along the line. -/
theorem stop_readAt
    {line : List Char}
    {offset : Nat}
    (inner : (Token.readAt line offset).kind ≠ .endOfLine) :
    offset < (Token.readAt line offset).stop ∧
      (Token.readAt line offset).stop ≤ line.length := by
  have whole := congrArg List.length (Lexeme.next_append (line.drop offset))
  have some : 0 < (Lexeme.next (line.drop offset)).value.length :=
    List.length_pos_iff.mpr (Lexeme.ofUnblank_value_ne_nil inner)
  simp only [List.length_append, List.length_drop] at whole
  simp only [Token.readAt, Token.ofLexeme]
  omega

theorem start_readAt_le
    (line : List Char)
    (offset : Nat) :
    min offset line.length ≤ (Token.readAt line offset).start :=
  Nat.le_add_right _ _

/-- A literal is read further along the line. -/
theorem stop_startingAt
    {line : List Char}
    {offset : Nat}
    {literal : QuotedLiteral}
    (found : QuotedLiteral.startingAt line offset = .ok literal) :
    offset < literal.stop ∧ literal.stop ≤ line.length := by
  unfold QuotedLiteral.startingAt at found
  split at found
  · rename_i quote character
    cases found
    rcases Option.bind_eq_some_iff.mp character with ⟨first, here, -⟩
    have inside := (List.getElem?_eq_some_iff.mp here).1
    have whole := congrArg List.length
      (LiteralContent.read_append quote (line.drop (offset + 1)))
    simp only [List.length_append, List.length_drop] at whole
    simp only [QuotedLiteral.spanning]
    omega
  · cases found

theorem exists_of_bind_eq_ok
    {ε α β : Type}
    {operation : Except ε α}
    {continuation : α → Except ε β}
    {result : β}
    (succeeds : operation >>= continuation = .ok result) :
    ∃ value, operation = .ok value ∧ continuation value = .ok result := by
  cases operation with
  | error fault => cases succeeds
  | ok value => exact ⟨value, rfl, succeeds⟩

theorem of_mapError_eq_ok
    {ε δ α : Type}
    {operation : Except ε α}
    {convert : ε → δ}
    {value : α}
    (succeeds : operation.mapError convert = .ok value) :
    operation = .ok value := by
  cases operation with
  | error fault => cases succeeds
  | ok value => cases succeeds; rfl

theorem offset_of_mark
    {state next : State}
    {token : Token}
    (marked : mark state token = .ok next) :
    next.offset = token.stop := by
  unfold mark at marked
  split at marked
  · rcases exists_of_bind_eq_ok marked with ⟨below, -, goes⟩
    cases goes
    rfl
  · cases marked
    rfl

theorem offset_of_count
    {policy : Policy}
    {line : List Char}
    {token : Token}
    {state next : State}
    (counted : count policy line token state = .ok (.goesOn next)) :
    next.offset = state.offset ∨
      ∃ literal, QuotedLiteral.startingAt line token.start = .ok literal ∧
        next.offset = literal.stop := by
  unfold count at counted
  split at counted
  · cases counted
    exact .inl rfl
  · split at counted
    · rcases exists_of_bind_eq_ok counted with ⟨partner, -, goes⟩
      split at goes
      · rcases exists_of_bind_eq_ok goes with ⟨popped, -, goes⟩
        cases goes
        exact .inl rfl
      · split at goes
        · cases goes
          exact .inl rfl
        · cases goes
    · split at counted
      · rcases exists_of_bind_eq_ok counted with ⟨literal, found, goes⟩
        cases goes
        exact .inr ⟨literal, of_mapError_eq_ok found, rfl⟩
      · cases counted
        exact .inl rfl

/-- A scan goes on behind the token that it has read, or behind a literal. -/
theorem offset_of_turn
    {policy : Policy}
    {line : List Char}
    {state next : State}
    (taken : turn policy line state = .ok (.goesOn next)) :
    (Token.readAt line state.offset).kind ≠ .endOfLine ∧
      (next.offset = (Token.readAt line state.offset).stop ∨
        ∃ literal, QuotedLiteral.startingAt line
            (Token.readAt line state.offset).start = .ok literal ∧
          next.offset = literal.stop) := by
  unfold turn at taken
  generalize Token.readAt line state.offset = token at taken ⊢
  dsimp only at taken
  split at taken
  · rename_i completed
    have inner : token.kind ≠ .endOfLine := by
      rw [completed.2]
      cases state.inComment <;> decide
    rcases exists_of_bind_eq_ok taken with ⟨marked, found, goes⟩
    cases goes
    exact ⟨inner, .inl (offset_of_mark found)⟩
  · split at taken
    · rcases exists_of_bind_eq_ok taken with ⟨scan, -, ends⟩
      cases ends
    · rename_i inner
      refine ⟨inner, ?_⟩
      split at taken
      · cases taken
        exact .inl rfl
      · exact offset_of_count taken

/-- Every turn goes on further along the line. -/
theorem offset_lt_of_turn
    {policy : Policy}
    {line : List Char}
    {state next : State}
    (taken : turn policy line state = .ok (.goesOn next)) :
    state.offset < next.offset ∧ next.offset ≤ line.length := by
  rcases offset_of_turn taken with ⟨inner, behind⟩
  have token := stop_readAt inner
  rcases behind with same | ⟨literal, found, same⟩
  · rw [same]
    exact token
  · have start := start_readAt_le line state.offset
    have covered := stop_startingAt found
    omega

/-- The scan of the rest of a line, turn by turn. -/
def run
    (policy : Policy)
    (line : List Char)
    (state : State) :
    Except ScanFault Scan :=
  match _taken : turn policy line state with
  | .error fault => .error fault
  | .ok (.ends scan) => .ok scan
  | .ok (.goesOn next) => run policy line next
termination_by line.length - state.offset
decreasing_by
  have further := offset_lt_of_turn _taken
  omega

/-- The quote up to which a literal is continued. -/
def closingQuote : TokenKind → Except ScanFault Quote
  | .quote quote => .ok quote
  | kind => .error (.quote kind)

/-- Where a scan outside literals begins. -/
def begin
    (stack : Stack)
    (offset : Nat) :
    State :=
  ⟨offset, stack.inComment, none, stack⟩

/-- The scan of a line, which first goes on with the literal that is open. -/
def ofLine
    (policy : Policy)
    (stack : Stack)
    (line : List Char) :
    Except ScanFault Scan :=
  match stack.top? with
  | some (.literal kind) => do
      let quote ← closingQuote kind
      let literal := QuotedLiteral.continued quote line 0
      if literal.terminated then
        let (_, below) ← stack.pop.mapError .stack
        run policy line (begin below literal.stop)
      else
        return Scan.finished stack
  | _ => run policy line (begin stack 0)

end OffsetScan

end Delimit
