import Delimit.Proofs.LastMarker
import Delimit.Proofs.ValidatorRun

/-!
# How a line ends a comment

Inside a comment whose brackets do not count, only two things on a line matter:
the first closing marker and the first line comment mark.  A line comment mark
swallows the rest of the line, and then the last marker behind it decides.

The first closing marker of a line therefore ends the comment for good, if no
opening marker comes later, with one exception.  If the slash of the marker is
followed by another slash, then the two slashes are taken for a line comment mark,
and the comment stays open unless the line holds another closing marker.
-/

namespace Delimit

open CommentTrend (closingMarker openingMarker)

def lineCommentMark : List Char := ['/', '/']

/-- How the rest of a line ends the comment that it begins in. -/
inductive CommentEnd where
  /-- The comment is closed, with the text behind the marker. -/
  | closed (rest : List Char)
  /-- A line comment mark is found, with the text behind the mark. -/
  | swallowed (comment : List Char)
  /-- The line ends inside the comment. -/
  | unclosed
  deriving DecidableEq, Repr

namespace CommentEnd

/-- Looks for the end of a comment, possibly right behind an asterisk. -/
def find (half : Bool) : List Char → CommentEnd
  | [] => unclosed
  | '/' :: '/' :: comment => swallowed comment
  | character :: rest =>
      if half && character == '/' then
        closed rest
      else
        find (character == '*') rest

theorem find_cons
    {half : Bool}
    {character : Char}
    {rest : List Char}
    (alone : character = '/' → rest.head? ≠ some '/') :
    find half (character :: rest) =
      if half && character == '/' then
        closed rest
      else
        find (character == '*') rest := by
  rw [find]
  rintro comment rfl rfl
  exact alone rfl rfl

theorem find_append_of_plain
    {front : List Char}
    (plain : ∀ character ∈ front, Lexeme.symbol? character = none)
    (half : Bool)
    (rest : List Char) :
    find half (front ++ rest) = find (half && front.isEmpty) rest := by
  induction front generalizing half with
  | nil => simp
  | cons character front induction =>
      have this := plain character (by simp)
      have slash := Lexeme.ne_slash_of_symbol? this
      have asterisk := Lexeme.ne_asterisk_of_symbol? this
      rw [List.cons_append, find_cons (absurd · slash)]
      simp only [beq_eq_false_iff_ne.mpr slash, Bool.and_false,
        Bool.false_eq_true, if_false, beq_eq_false_iff_ne.mpr asterisk,
        List.isEmpty_cons]
      apply induction
      intro later member
      exact plain later (List.mem_cons_of_mem _ member)

theorem find_lexeme
    {text gap value rest : List Char}
    {kind : TokenKind}
    {half : Bool}
    (form : Lexeme.Form text ⟨gap, kind, value, rest⟩)
    (inner : kind ≠ .endOfLine)
    (incomplete : Scan.completes true half gap kind = false) :
    find half text = find (kind == .asterisk) rest := by
  have text_eq : text = gap ++ (value ++ rest) := form.text_eq
  rcases form.symbol_or_plain inner with
    ⟨character, rfl, symbol, alone⟩ | ⟨wordy, plain⟩
  · have noMarker : (half && gap.isEmpty && character == '/') = false := by
      rw [Lexeme.symbol?_beq_slash symbol]
      exact incomplete
    rw [text_eq, find_append_of_plain form.plain_gap, List.singleton_append,
      find_cons alone]
    simp only [noMarker, Bool.false_eq_true, if_false,
      Lexeme.symbol?_beq_asterisk symbol]
  · have some : (gap ++ value).isEmpty = false := by
      simp [form.value_ne_nil inner]
    rw [text_eq, ← List.append_assoc, find_append_of_plain plain, some,
      Bool.and_false]
    rcases wordy with rfl | rfl <;> rfl

/--
The search stops at the first closing marker of a text, unless a line comment mark
stands in front of it, which swallows the marker.
-/
theorem find_first
    (half : Bool)
    {before : List Char}
    (first : ¬ closingMarker <:+: before)
    (edge : half = true → before.head? ≠ some '/')
    (after : List Char) :
    (lineCommentMark <:+: before ∧
        ∃ back, find half (before ++ '*' :: '/' :: after) =
          swallowed (back ++ '*' :: '/' :: after)) ∨
      ¬ lineCommentMark <:+: before ∧
        find half (before ++ '*' :: '/' :: after) =
          find true ('/' :: after) := by
  induction before generalizing half with
  | nil =>
      right
      constructor
      · simp [lineCommentMark]
      · rw [List.nil_append, find_cons (by simp)]
        cases half <;> rfl
  | cons character before induction =>
      rw [closingMarker, CommentTrend.pair_infix_cons_iff, not_or] at first
      rw [lineCommentMark, CommentTrend.pair_infix_cons_iff]
      by_cases mark : character = '/' ∧ before.head? = some '/'
      · -- The line comment mark swallows everything behind it.
        rcases mark with ⟨rfl, second⟩
        rcases List.head?_eq_some_iff.mp second with ⟨back, rfl⟩
        exact .inl ⟨.inl ⟨rfl, rfl⟩, back, rfl⟩
      · have alone : character = '/' →
            (before ++ '*' :: '/' :: after).head? ≠ some '/' := by
          rintro rfl
          cases before with
          | nil => simp
          | cons second before => simpa using fun same => mark ⟨rfl, by simp [same]⟩
        have inner : (half && character == '/') = false := by
          cases half with
          | false => rfl
          | true => simpa using edge rfl
        have next : (character == '*') = true → before.head? ≠ some '/' := by
          rw [beq_iff_eq]
          exact fun asterisk slash => first.1 ⟨asterisk, slash⟩
        rw [List.cons_append, find_cons alone, inner, if_neg Bool.false_ne_true]
        rcases induction _ first.2 next with
          ⟨hidden, back, found⟩ | ⟨visible, found⟩
        · exact .inl ⟨.inr hidden, back, found⟩
        · exact .inr ⟨not_or.mpr ⟨mark, visible⟩, found⟩

end CommentEnd

namespace Scan

variable {policy : Policy}

/-- What a scan in a comment comes to, given how the line ends the comment. -/
def ofCommentEnd
    (policy : Policy)
    (inner opened : List Bracket) :
    CommentEnd → Scan
  | .closed rest => Cursor.run policy ⟨false, false, Stack.ofCode opened, rest⟩
  | .swallowed comment =>
      atLineEnd true (Stack.ofComment inner opened) ('/' :: '/' :: comment)
  | .unclosed => finished (Stack.ofComment inner opened)

/-- A scan in a comment whose brackets do not count looks for the end of the comment. -/
theorem run_comment
    (uncounted : policy.commentBracketParity = false)
    (half : Bool)
    (inner opened : List Bracket)
    (text : List Char) :
    Cursor.run policy ⟨true, half, Stack.ofComment inner opened, text⟩ =
      ofCommentEnd policy inner opened (CommentEnd.find half text) := by
  have passive : counts policy true ≠ true := by
    simp [counts, uncounted]
  generalize cursor_eq : Cursor.mk true half (Stack.ofComment inner opened)
    text = cursor
  induction cursor using Cursor.inductionOn policy
    generalizing half text with
  | halt cursor scan halts =>
      subst cursor_eq
      rw [halts.run_eq]
      cases halts with
      | lineEnd form =>
          rcases form.endOfLine_inv with ⟨rfl, rfl⟩ | ⟨comment, rfl, rfl⟩
          · have whole := CommentEnd.find_append_of_plain form.plain_gap half []
            rw [List.append_nil] at whole
            rw [whole]
            rfl
          · rw [CommentEnd.find_append_of_plain form.plain_gap]
            rfl
      | lost form missing =>
          rw [Stack.unwind_comment] at missing
          cases missing
  | step cursor consumed next step induction =>
      subst cursor_eq
      rw [step.run_eq]
      cases step with
      | closes form unwound =>
          rw [Stack.unwind_comment] at unwound
          cases unwound
          have symbol : Lexeme.symbol? '/' = some .slash := rfl
          rcases form.value_eq symbol with ⟨rfl, alone⟩
          have found : CommentEnd.find true _ = _ := CommentEnd.find_cons alone
          obtain rfl := form.text_eq
          exact congrArg (ofCommentEnd policy inner opened) found.symm
      | passes form other incomplete =>
          rw [induction _ _ rfl, CommentEnd.find_lexeme form other incomplete]
      | pushes form counted => exact (passive counted).elim
      | pops form counted => exact (passive counted).elim
      | ignores form counted => exact (passive counted).elim
      | reads form counted => exact (passive counted).elim
      | skips form inert incomplete counted => exact (passive counted).elim

/-- The text in which a cursor in code looks for an opening marker. -/
def Cursor.pending
    (cursor : Cursor) :
    List Char :=
  if cursor.half then '/' :: cursor.text else cursor.text

theorem Cursor.text_suffix_pending
    (cursor : Cursor) :
    cursor.text <:+ cursor.pending := by
  unfold pending
  split
  · exact List.suffix_cons _ _
  · exact List.suffix_refl _

/-- A scan in code that meets no opening marker stays outside comments. -/
theorem Step.outside
    {cursor next : Cursor}
    {consumed : List Char}
    (step : Step policy cursor consumed next)
    (code : cursor.inComment = false)
    (unopened : ¬ openingMarker <:+: cursor.pending) :
    next.inComment = false ∧ ¬ openingMarker <:+: next.pending := by
  have inherited : ∀ rest, rest <:+ cursor.text →
      ¬ openingMarker <:+: rest := by
    intro rest suffix marker
    exact unopened (marker.trans
      (suffix.trans cursor.text_suffix_pending).isInfix)
  have later : ¬ openingMarker <:+: next.text :=
    inherited next.text ⟨consumed, step.text_eq.symm⟩
  cases step with
  | opens form =>
      have symbol : Lexeme.symbol? '*' = some .asterisk := rfl
      rcases form.value_eq symbol with ⟨rfl, -⟩
      have text_eq := form.text_eq
      subst text_eq
      exact (unopened ⟨[], _, rfl⟩).elim
  | closes form => cases code
  | passes form => cases code
  | ignores form => cases code
  | pushes form => exact ⟨code, later⟩
  | pops form => exact ⟨code, later⟩
  | reads form => exact ⟨code, later⟩
  | @skips inComment _ _ kind _ gap value rest form inert incomplete counted =>
      refine ⟨code, ?_⟩
      by_cases slash : kind = .slash
      · -- The slash that the next cursor remembers is the last one that was read.
        subst slash
        have symbol : Lexeme.symbol? '/' = some .slash := rfl
        rcases form.value_eq symbol with ⟨rfl, -⟩
        rw [show inComment = false from code]
        exact inherited ('/' :: rest) ⟨gap, form.text_eq.symm⟩
      · have none : (kind == markerStart inComment) = false := by
          rw [show inComment = false from code]
          simpa [markerStart] using slash
        simpa [Cursor.pending, none] using later

theorem Cursor.Sound.run_outside
    {cursor : Cursor}
    (sound : cursor.Sound)
    (code : cursor.inComment = false)
    (unopened : ¬ openingMarker <:+: cursor.pending) :
    (cursor.run policy).stack.inComment = false := by
  induction cursor using Cursor.inductionOn policy with
  | halt cursor scan halts =>
      rw [halts.run_eq]
      cases sound with
      | comment => cases code
      | code opened half text =>
          cases halts with
          | lineEnd => exact Stack.inComment_ofCode opened
          | mismatch => exact Stack.inComment_ofCode opened
      | literal quote opened half =>
          cases halts with
          | lineEnd => exact Stack.inComment_ofLiteral quote opened
          | mismatch => exact Stack.inComment_ofLiteral quote opened
  | step cursor consumed next step induction =>
      rcases step.outside code unopened with ⟨stays, rest⟩
      rw [step.run_eq]
      exact induction (step.sound sound) stays rest

theorem inComment_atLineEnd
    (inner opened : List Bracket)
    (comment : List Char) :
    (atLineEnd true (Stack.ofComment inner opened)
        ('/' :: '/' :: comment)).stack.inComment = true ↔
      CommentTrend.ofForward comment ≠ .closes := by
  unfold atLineEnd
  by_cases closes : CommentTrend.ofForward comment = .closes
  · simp [closes, Stack.unwind_comment, finished]
  · simp [closes, finished]

end Scan

namespace Validator

theorem inComment_validate_eq
    {validator : Validator}
    {inner opened : List Bracket}
    (uncounted : validator.policy.commentBracketParity = false)
    (inside : validator.stack = Stack.ofComment inner opened)
    (line : List Char) :
    (validator.validate line).2.inComment =
      (Scan.ofCommentEnd validator.policy inner opened
        (CommentEnd.find false line)).stack.inComment := by
  rw [inComment, stack_validate, inside, Scan.ofLine_ofComment,
    Scan.run_comment uncounted]

/--
In a comment whose brackets do not count, a line with a closing marker and no later
opening marker ends the comment, with one exception: the comment stays open exactly
when no line comment mark stands before the first closing marker, the slash of the
marker is followed by another slash, and there is no closing marker behind the two.
-/
theorem inComment_validate_iff
    {validator : Validator}
    (reachable : Reachable validator)
    (uncounted : validator.policy.commentBracketParity = false)
    (inside : validator.inComment = true)
    {before after : List Char}
    (first : ¬ closingMarker <:+: before)
    (last : ¬ openingMarker <:+: '/' :: after) :
    (validator.validate (before ++ '*' :: '/' :: after)).2.inComment = true ↔
      ¬ lineCommentMark <:+: before ∧
        ∃ rest, after = '/' :: rest ∧ ¬ closingMarker <:+: rest := by
  rcases reachable.shaped.eq_ofComment inside with ⟨inner, opened, stack⟩
  rw [inComment_validate_eq uncounted stack]
  rcases CommentEnd.find_first false first (by simp) after with
    ⟨hidden, back, found⟩ | ⟨visible, found⟩
  · -- The marker is behind a line comment mark, where it is the last one.
    have closes : CommentTrend.ofForward (back ++ '*' :: '/' :: after) =
        .closes :=
      (CommentTrend.ofForward_eq_closes_iff _).mpr ⟨back, after, rfl, last⟩
    rw [found, Scan.ofCommentEnd, Scan.inComment_atLineEnd]
    simp [closes, hidden]
  · rw [found]
    by_cases glued : after.head? = some '/'
    · -- The slash of the marker begins a line comment mark of its own.
      rcases List.head?_eq_some_iff.mp glued with ⟨rest, rfl⟩
      have unopened : ¬ openingMarker <:+: rest := by
        intro marker
        apply last
        exact marker.trans (List.suffix_append ['/', '/'] rest).isInfix
      have closes := CommentTrend.ofForward_eq_closes_iff_infix unopened
      have swallowed : CommentEnd.find true ('/' :: '/' :: rest) =
          .swallowed rest := rfl
      rw [swallowed, Scan.ofCommentEnd, Scan.inComment_atLineEnd, ne_eq, closes]
      simp [visible]
    · have closed : CommentEnd.find true ('/' :: after) = .closed after := by
        rw [CommentEnd.find_cons (fun _ => glued)]
        rfl
      have sound : Scan.Cursor.Sound
          ⟨false, false, Stack.ofCode opened, after⟩ := .code opened false after
      have outside := @Scan.Cursor.Sound.run_outside validator.policy _ sound rfl
        fun marker => last (marker.trans (List.suffix_cons _ _).isInfix)
      rw [closed, Scan.ofCommentEnd, outside]
      constructor
      · intro impossible
        cases impossible
      · rintro ⟨-, rest, rfl, -⟩
        exact (glued rfl).elim

/-- A validator that has taken an opening marker. -/
def inOpenComment : Validator := ((new {}).validate openingMarker).2

/-- A marker that is glued to another slash leaves a comment open. -/
theorem inComment_gluedMarker :
    Reachable inOpenComment ∧
      inOpenComment.policy.commentBracketParity = false ∧
      inOpenComment.inComment = true ∧
      ¬ closingMarker <:+: [' '] ∧ ¬ openingMarker <:+: '/' :: ['/', 'x'] ∧
      ((inOpenComment.validate ([' '] ++ '*' :: '/' :: ['/', 'x'])).2.inComment =
          true ↔
        ¬ lineCommentMark <:+: [' '] ∧
          ∃ rest, ['/', 'x'] = '/' :: rest ∧ ¬ closingMarker <:+: rest) :=
  have reachable : Reachable inOpenComment := (Reachable.new {}).validate _
  have inside : inOpenComment.inComment = true := by decide +kernel
  ⟨reachable, rfl, inside, by decide, by decide,
    inComment_validate_iff reachable rfl inside (by decide) (by decide)⟩

/-- Not every line with a closing marker and no later opening one ends a comment. -/
theorem not_forall_inComment_validate_eq_false :
    ¬ ∀ (validator : Validator) (before after : List Char),
      Reachable validator →
      validator.policy.commentBracketParity = false →
      validator.inComment = true →
      ¬ closingMarker <:+: before →
      ¬ openingMarker <:+: '/' :: after →
      (validator.validate (before ++ '*' :: '/' :: after)).2.inComment =
        false := by
  intro ends
  have ended := ends inOpenComment [] ['/'] ((Reachable.new {}).validate _) rfl
    (by decide +kernel) (by decide) (by decide)
  have stays : (inOpenComment.validate ['*', '/', '/']).2.inComment = true := by
    decide +kernel
  rw [List.nil_append, stays] at ended
  cases ended

end Validator

end Delimit
