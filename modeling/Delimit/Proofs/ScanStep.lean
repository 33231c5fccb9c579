import Delimit.Proofs.LexemeForm
import Delimit.Proofs.LiteralReading
import Delimit.Scan

/-!
# Steps of a scan

A scan is a run of steps, one a lexeme.  A cursor holds what the scan of the rest
of a line depends on; a step reads one lexeme, a literal with its content, and
moves the cursor behind it; a cursor that cannot step halts with a scan.  Every
cursor either halts or steps, and never both, so a fact about scans follows from
its halts and its steps by induction along the line.

A step depends on the text behind it through the first character only.  The
same step is taken in front of every text that begins alike.
-/

namespace Delimit

namespace Scan

/-- Where a scan stands inside a line. -/
structure Cursor where
  /-- Whether a comment is open. -/
  inComment : Bool
  /-- Whether the token just before begins the marker that is looked for. -/
  half : Bool
  /-- The delimiters that are open. -/
  stack : Stack
  /-- The rest of the line. -/
  text : List Char

/-- The scan of the rest of the line. -/
def Cursor.run
    (policy : Policy)
    (cursor : Cursor) :
    Scan :=
  tokens policy cursor.inComment cursor.half cursor.stack cursor.text

/-- Whether a token completes the marker that is looked for. -/
def completes
    (inComment half : Bool)
    (gap : List Char)
    (kind : TokenKind) :
    Bool :=
  half && gap.isEmpty && kind == markerStop inComment

/-- Whether brackets and literals count. -/
def counts
    (policy : Policy)
    (inComment : Bool) :
    Bool :=
  !inComment || policy.commentBracketParity

/-- Whether a token neither opens nor closes anything by itself. -/
def isInert : TokenKind → Bool
  | .slash | .asterisk | .hash | .identifier | .other => true
  | _ => false

theorem beq_markerStart_eq_false
    (kind : TokenKind)
    (inComment : Bool)
    (lively : isInert kind = false) :
    (kind == markerStart inComment) = false := by
  rw [beq_eq_false_iff_ne]
  rintro rfl
  cases inComment <;> cases lively

theorem completes_eq_false
    (kind : TokenKind)
    (inComment half : Bool)
    (gap : List Char)
    (lively : isInert kind = false) :
    completes inComment half gap kind = false := by
  have other : (kind == markerStop inComment) = false := by
    rw [beq_eq_false_iff_ne]
    rintro rfl
    cases inComment <;> cases lively
  simp [completes, other]

/-- The scan of the text behind a token that counts and completes no marker. -/
def afterToken
    (policy : Policy)
    (inComment half : Bool)
    (stack : Stack)
    (rest : List Char) :
    TokenKind → Scan
  | .opening bracket =>
      tokens policy inComment half
        (stack.push (.bracket (.opening bracket))) rest
  | .closing bracket =>
      if stack.top? = some (.bracket (.opening bracket)) then
        tokens policy inComment half stack.tail rest
      else if inComment then
        tokens policy inComment half stack rest
      else
        abandoned stack
  | .quote quote =>
      let content := LiteralContent.read quote rest
      tokens policy inComment half
        (afterLiteral policy inComment stack quote content.ending) content.rest
  | _ => tokens policy inComment half stack rest

/-- A token that counts and completes no marker acts by its kind. -/
theorem tokens_of_counts
    {policy : Policy}
    {inComment half : Bool}
    {stack : Stack}
    {kind : TokenKind}
    {text gap value rest : List Char}
    (form : Lexeme.Form text ⟨gap, kind, value, rest⟩)
    (inner : kind ≠ .endOfLine)
    (incomplete : completes inComment half gap kind = false)
    (counted : counts policy inComment = true) :
    tokens policy inComment half stack text =
      afterToken policy inComment (kind == markerStart inComment) stack rest
        kind := by
  have suppressed : (inComment && !policy.commentBracketParity) = false := by
    revert counted
    cases inComment <;> simp [counts]
  rw [completes] at incomplete
  rw [tokens]
  simp only [form.next_eq, inner, dite_false, incomplete, suppressed,
    Bool.false_eq_true, if_false]
  rfl

/-- One step of a scan, labelled with the text that it reads. -/
inductive Step (policy : Policy) : Cursor → List Char → Cursor → Prop where
  /-- An asterisk directly behind a slash opens a comment. -/
  | opens {stack : Stack} {text value rest : List Char}
      (form : Lexeme.Form text ⟨[], .asterisk, value, rest⟩) :
      Step policy ⟨false, true, stack, text⟩ value
        ⟨true, false, stack.push .comment, rest⟩
  /-- A slash directly behind an asterisk closes the comment. -/
  | closes {stack below : Stack} {text value rest : List Char}
      (form : Lexeme.Form text ⟨[], .slash, value, rest⟩)
      (unwound : stack.unwind .comment = .ok below) :
      Step policy ⟨true, true, stack, text⟩ value
        ⟨false, false, below, rest⟩
  /-- A token inside a comment is passed over. -/
  | passes {half : Bool} {stack : Stack} {kind : TokenKind}
      {text gap value rest : List Char}
      (form : Lexeme.Form text ⟨gap, kind, value, rest⟩)
      (inner : kind ≠ .endOfLine)
      (incomplete : completes true half gap kind = false)
      (uncounted : policy.commentBracketParity = false) :
      Step policy ⟨true, half, stack, text⟩ (gap ++ value)
        ⟨true, kind == .asterisk, stack, rest⟩
  /-- An opening bracket is pushed. -/
  | pushes {inComment half : Bool} {stack : Stack} {bracket : Bracket}
      {text gap value rest : List Char}
      (form : Lexeme.Form text ⟨gap, .opening bracket, value, rest⟩)
      (counted : counts policy inComment = true) :
      Step policy ⟨inComment, half, stack, text⟩ (gap ++ value)
        ⟨inComment, false, stack.push (.bracket (.opening bracket)), rest⟩
  /-- A closing bracket takes its partner off the stack. -/
  | pops {inComment half : Bool} {stack : Stack} {bracket : Bracket}
      {text gap value rest : List Char}
      (form : Lexeme.Form text ⟨gap, .closing bracket, value, rest⟩)
      (counted : counts policy inComment = true)
      (partner : stack.top? = some (.bracket (.opening bracket))) :
      Step policy ⟨inComment, half, stack, text⟩ (gap ++ value)
        ⟨inComment, false, stack.tail, rest⟩
  /-- A closing bracket without a partner is ignored in a comment. -/
  | ignores {half : Bool} {stack : Stack} {bracket : Bracket}
      {text gap value rest : List Char}
      (form : Lexeme.Form text ⟨gap, .closing bracket, value, rest⟩)
      (counted : counts policy true = true)
      (single : stack.top? ≠ some (.bracket (.opening bracket))) :
      Step policy ⟨true, half, stack, text⟩ (gap ++ value)
        ⟨true, false, stack, rest⟩
  /-- A literal is read as a whole. -/
  | reads {inComment half : Bool} {stack : Stack} {quote : Quote}
      {text gap value content covered rest : List Char}
      {ending : LiteralEnding}
      (form : Lexeme.Form text ⟨gap, .quote quote, value, content⟩)
      (counted : counts policy inComment = true)
      (literal : LiteralContent.read quote content = ⟨covered, ending, rest⟩) :
      Step policy ⟨inComment, half, stack, text⟩ (gap ++ (value ++ covered))
        ⟨inComment, false,
          afterLiteral policy inComment stack quote ending, rest⟩
  /-- Any other token changes nothing but what is known of a marker. -/
  | skips {inComment half : Bool} {stack : Stack} {kind : TokenKind}
      {text gap value rest : List Char}
      (form : Lexeme.Form text ⟨gap, kind, value, rest⟩)
      (inert : isInert kind = true)
      (incomplete : completes inComment half gap kind = false)
      (counted : counts policy inComment = true) :
      Step policy ⟨inComment, half, stack, text⟩ (gap ++ value)
        ⟨inComment, kind == markerStart inComment, stack, rest⟩

/-- How a scan ends where it cannot step. -/
inductive Halts (policy : Policy) : Cursor → Scan → Prop where
  /-- The end of the line, with the line comment that was swallowed. -/
  | lineEnd {inComment half : Bool} {stack : Stack}
      {text gap swallowed rest : List Char}
      (form : Lexeme.Form text ⟨gap, .endOfLine, swallowed, rest⟩) :
      Halts policy ⟨inComment, half, stack, text⟩
        (atLineEnd inComment stack swallowed)
  /-- A closing bracket without a partner outside comments. -/
  | mismatch {half : Bool} {stack : Stack} {bracket : Bracket}
      {text gap value rest : List Char}
      (form : Lexeme.Form text ⟨gap, .closing bracket, value, rest⟩)
      (single : stack.top? ≠ some (.bracket (.opening bracket))) :
      Halts policy ⟨false, half, stack, text⟩ (abandoned stack)
  /-- A closing marker for a comment that is not on the stack. -/
  | lost {stack : Stack} {text value rest : List Char} {fault : StackFault}
      (form : Lexeme.Form text ⟨[], .slash, value, rest⟩)
      (missing : stack.unwind .comment = .error fault) :
      Halts policy ⟨true, true, stack, text⟩ (lost stack (.stack fault))

variable {policy : Policy}

namespace Step

theorem text_eq
    {cursor next : Cursor}
    {consumed : List Char}
    (step : Step policy cursor consumed next) :
    cursor.text = consumed ++ next.text := by
  cases step with
  | opens form => simpa using form.text_eq
  | closes form => simpa using form.text_eq
  | passes form => simpa using form.text_eq
  | pushes form => simpa using form.text_eq
  | pops form => simpa using form.text_eq
  | ignores form => simpa using form.text_eq
  | reads form counted literal =>
      simpa [← LiteralContent.append_of_read literal] using form.text_eq
  | skips form => simpa using form.text_eq

/-- The same step is taken in front of every text that begins alike. -/
theorem replace_rest
    {cursor next : Cursor}
    {consumed rest : List Char}
    (step : Step policy cursor consumed next)
    (alike : rest.head? = next.text.head?) :
    Step policy { cursor with text := consumed ++ rest } consumed
      { next with text := rest } := by
  cases step with
  | opens form =>
      exact .opens (form.replace_rest (by simp) alike)
  | closes form unwound =>
      exact .closes (form.replace_rest (by simp) alike) unwound
  | passes form inner incomplete uncounted =>
      rw [List.append_assoc]
      exact .passes (form.replace_rest inner alike) inner incomplete uncounted
  | pushes form counted =>
      rw [List.append_assoc]
      exact .pushes (form.replace_rest (by simp) alike) counted
  | pops form counted partner =>
      rw [List.append_assoc]
      exact .pops (form.replace_rest (by simp) alike) counted partner
  | ignores form counted single =>
      rw [List.append_assoc]
      exact .ignores (form.replace_rest (by simp) alike) counted single
  | reads form counted literal =>
      rw [List.append_assoc, List.append_assoc]
      refine .reads (form.replace_rest (by simp) ?_) counted
        (LiteralContent.read_replace_rest literal alike)
      rw [← LiteralContent.append_of_read literal, List.head?_append,
        List.head?_append, alike]
  | skips form inert incomplete counted =>
      rw [List.append_assoc]
      exact .skips (form.replace_rest (by rintro rfl; cases inert) alike)
        inert incomplete counted

theorem length_text_lt
    {cursor next : Cursor}
    {consumed : List Char}
    (step : Step policy cursor consumed next) :
    next.text.length < cursor.text.length := by
  have nonempty : consumed ≠ [] := by
    cases step with
    | opens form => exact form.value_ne_nil (by simp)
    | closes form => exact form.value_ne_nil (by simp)
    | passes form inner => simp [form.value_ne_nil inner]
    | pushes form => simp [form.value_ne_nil (by simp)]
    | pops form => simp [form.value_ne_nil (by simp)]
    | ignores form => simp [form.value_ne_nil (by simp)]
    | reads form => simp [form.value_ne_nil (by simp)]
    | skips form inert =>
        simp [form.value_ne_nil (by rintro rfl; cases inert)]
  rw [step.text_eq, List.length_append]
  have := List.length_pos_iff.mpr nonempty
  omega

/-- A step does not change what the scan comes to. -/
theorem run_eq
    {cursor next : Cursor}
    {consumed : List Char}
    (step : Step policy cursor consumed next) :
    cursor.run policy = next.run policy := by
  cases step with
  | opens form =>
      rw [Cursor.run, tokens]
      simp [form.next_eq, markerStop, Cursor.run]
  | closes form unwound =>
      rw [Cursor.run, tokens]
      simp [form.next_eq, markerStop, unwound, Cursor.run]
  | passes form inner incomplete uncounted =>
      rw [completes] at incomplete
      rw [Cursor.run, tokens]
      simp [form.next_eq, inner, incomplete, uncounted, markerStart, Cursor.run]
  | pushes form counted =>
      rw [Cursor.run, tokens_of_counts form (by simp)
        (completes_eq_false _ _ _ _ rfl) counted,
        beq_markerStart_eq_false _ _ rfl]
      rfl
  | pops form counted partner =>
      rw [Cursor.run, tokens_of_counts form (by simp)
        (completes_eq_false _ _ _ _ rfl) counted,
        beq_markerStart_eq_false _ _ rfl, afterToken, if_pos partner]
      rfl
  | ignores form counted single =>
      rw [Cursor.run, tokens_of_counts form (by simp)
        (completes_eq_false _ _ _ _ rfl) counted,
        beq_markerStart_eq_false _ _ rfl, afterToken, if_neg single]
      rfl
  | reads form counted literal =>
      rw [Cursor.run, tokens_of_counts form (by simp)
        (completes_eq_false _ _ _ _ rfl) counted,
        beq_markerStart_eq_false _ _ rfl, afterToken, literal]
      rfl
  | @skips _ _ _ kind _ _ _ _ form inert incomplete counted =>
      have inner : kind ≠ .endOfLine := by
        rintro rfl
        cases inert
      rw [Cursor.run, tokens_of_counts form inner incomplete counted]
      cases kind <;> first | rfl | cases inert

end Step

theorem Halts.run_eq
    {cursor : Cursor}
    {scan : Scan}
    (halts : Halts policy cursor scan) :
    cursor.run policy = scan := by
  cases halts with
  | lineEnd form =>
      rw [Cursor.run, tokens]
      simp [form.next_eq]
  | mismatch form single =>
      rw [Cursor.run, tokens_of_counts form (by simp)
        (completes_eq_false _ _ _ _ rfl) rfl, afterToken, if_neg single]
      rfl
  | lost form missing =>
      rw [Cursor.run, tokens]
      simp [form.next_eq, markerStop, missing]

/-- A cursor halts or steps. -/
theorem Cursor.progress
    (policy : Policy)
    (cursor : Cursor) :
    (∃ scan, Halts policy cursor scan) ∨
      ∃ consumed next, Step policy cursor consumed next := by
  rcases cursor with ⟨inComment, half, stack, text⟩
  have form := Lexeme.form_next text
  generalize Lexeme.next text = lexeme at form
  rcases lexeme with ⟨gap, kind, value, rest⟩
  by_cases inner : kind = .endOfLine
  · subst inner
    exact .inl ⟨_, .lineEnd form⟩
  -- A marker comes before everything else that its last token may do.
  cases marked : completes inComment half gap kind with
  | true =>
      simp only [completes, Bool.and_eq_true, List.isEmpty_iff,
        beq_iff_eq] at marked
      rcases marked with ⟨⟨rfl, rfl⟩, rfl⟩
      cases inComment with
      | false => exact .inr ⟨_, _, .opens form⟩
      | true =>
          cases unwound : stack.unwind .comment with
          | ok below => exact .inr ⟨_, _, .closes form unwound⟩
          | error fault => exact .inl ⟨_, .lost form unwound⟩
  | false =>
      cases counted : counts policy inComment with
      | false =>
          simp only [counts, Bool.or_eq_false_iff,
            Bool.not_eq_false'] at counted
          rcases counted with ⟨rfl, uncounted⟩
          exact .inr ⟨_, _, .passes form inner marked uncounted⟩
      | true =>
          cases kind with
          | opening bracket => exact .inr ⟨_, _, .pushes form counted⟩
          | closing bracket =>
              by_cases partner :
                  stack.top? = some (.bracket (.opening bracket))
              · exact .inr ⟨_, _, .pops form counted partner⟩
              · cases inComment with
                | false => exact .inl ⟨_, .mismatch form partner⟩
                | true => exact .inr ⟨_, _, .ignores form counted partner⟩
          | quote quote => exact .inr ⟨_, _, .reads form counted rfl⟩
          | endOfLine => exact (inner rfl).elim
          | slash => exact .inr ⟨_, _, .skips form rfl marked counted⟩
          | asterisk => exact .inr ⟨_, _, .skips form rfl marked counted⟩
          | hash => exact .inr ⟨_, _, .skips form rfl marked counted⟩
          | identifier => exact .inr ⟨_, _, .skips form rfl marked counted⟩
          | other => exact .inr ⟨_, _, .skips form rfl marked counted⟩

/-- What halts bring about and steps hand back holds of every cursor. -/
theorem Cursor.inductionOn
    (policy : Policy)
    {motive : Cursor → Prop}
    (cursor : Cursor)
    (halt : ∀ cursor scan, Halts policy cursor scan → motive cursor)
    (step : ∀ cursor consumed next,
      Step policy cursor consumed next → motive next → motive cursor) :
    motive cursor := by
  induction size : cursor.text.length using Nat.strongRecOn
    generalizing cursor with
  | ind length induction =>
      rcases cursor.progress policy with ⟨scan, halts⟩ | ⟨consumed, next, taken⟩
      · exact halt cursor scan halts
      · exact step cursor consumed next taken
          (induction _ (size ▸ taken.length_text_lt) next rfl)

end Scan

end Delimit
