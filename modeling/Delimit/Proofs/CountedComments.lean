import Delimit.Proofs.CommentLife

/-!
# Counting brackets inside comments

Two validators differ in a single choice: one passes over the contents of comments,
the other counts the brackets in them.  As long as the first meets no quote inside a
comment, they read the same tokens, step for step.  The second pushes and pops above
the comment, where it is seen by nothing but the depth of its stack, and leaves the
comment together with the first.

A literal inside a comment would be read as a whole by the second validator only,
so a quote there may hide the closing marker from it.
-/

namespace Delimit

/-- Entries, bottom first, up to and including the first comment. -/
def Entry.throughComment : List Entry → List Entry
  | [] => []
  | entry :: above =>
      if entry = .comment then
        [entry]
      else
        entry :: throughComment above

theorem Entry.throughComment_append
    {opened : List Entry}
    (absent : Entry.comment ∉ opened)
    (above : List Entry) :
    throughComment (opened ++ .comment :: above) = opened ++ [.comment] := by
  induction opened with
  | nil => simp [throughComment]
  | cons entry opened induction =>
      simp only [List.mem_cons, not_or] at absent
      rw [List.cons_append, throughComment, if_neg (Ne.symm absent.1),
        induction absent.2, List.cons_append]

/-- What lies up to a comment does not depend on what was counted in it. -/
theorem Stack.throughComment_ofComment
    (inner opened : List Bracket) :
    Entry.throughComment (ofComment inner opened).entries =
      (Entry.brackets opened).reverse ++ [.comment] := by
  have absent : Entry.comment ∉ (Entry.brackets opened).reverse := by
    rw [List.mem_reverse]
    exact Entry.comment_notMem_brackets opened
  have split : (ofComment inner opened).entries =
      (Entry.brackets opened).reverse ++
        .comment :: (Entry.brackets inner).reverse := by
    simp [entries, ofComment]
  rw [split, Entry.throughComment_append absent]

/-- Stacks that differ in the brackets counted inside a comment at most. -/
inductive Stack.Alike : Stack → Stack → Prop where
  /-- No comment is open. -/
  | same {stack : Stack}
      (outside : stack.inComment = false) :
      Alike stack stack
  /-- The brackets inside a comment were counted on the second stack only. -/
  | comment (inner opened : List Bracket) :
      Alike (ofComment [] opened) (ofComment inner opened)

namespace Stack.Alike

variable {first second : Stack}

theorem inComment_eq
    (alike : Alike first second) :
    first.inComment = second.inComment := by
  cases alike with
  | same => rfl
  | comment inner opened => rw [inComment_ofComment, inComment_ofComment]

theorem throughComment_eq
    (alike : Alike first second) :
    Entry.throughComment first.entries = Entry.throughComment second.entries := by
  cases alike with
  | same => rfl
  | comment inner opened =>
      rw [throughComment_ofComment, throughComment_ofComment]

theorem eq_of_outside
    (alike : Alike first second)
    (outside : first.inComment = false) :
    first = second := by
  cases alike with
  | same => rfl
  | comment inner opened =>
      rw [inComment_ofComment] at outside
      cases outside

theorem isEmpty_eq
    (alike : Alike first second) :
    first.isEmpty = second.isEmpty := by
  cases alike with
  | same => rfl
  | comment inner opened => simp [isEmpty, ofComment]

end Stack.Alike

namespace Scan

/-- The policy that passes over comments, or counts the brackets in them. -/
def counting
    (parity continues : Bool) :
    Policy :=
  { commentBracketParity := parity
    continueUnterminatedLiterals := continues }

/-- Cursors at the same place whose stacks are alike. -/
inductive Cursor.Alike : Cursor → Cursor → Prop where
  /-- Outside comments nothing differs. -/
  | same {stack : Stack} {half : Bool} {text : List Char}
      (outside : stack.inComment = false) :
      Alike ⟨false, half, stack, text⟩ ⟨false, half, stack, text⟩
  /-- Inside a comment, the second scan counts brackets. -/
  | comment (inner opened : List Bracket) (half : Bool) (text : List Char) :
      Alike ⟨true, half, Stack.ofComment [] opened, text⟩
        ⟨true, half, Stack.ofComment inner opened, text⟩

/-- Whether the next token is a quote inside a comment. -/
def Cursor.MeetsQuote
    (cursor : Cursor) :
    Prop :=
  cursor.inComment = true ∧
    ∃ quote, (Lexeme.next cursor.text).kind = .quote quote

variable {continues : Bool}

/-- Outside comments the contents of comments do not matter. -/
theorem Step.counting_of_outside
    {half : Bool}
    {stack : Stack}
    {text consumed : List Char}
    {next : Cursor}
    (step : Step (counting false continues) ⟨false, half, stack, text⟩ consumed
      next) :
    Step (counting true continues) ⟨false, half, stack, text⟩ consumed next := by
  cases step with
  | opens form => exact .opens form
  | pushes form => exact .pushes form rfl
  | pops form counted partner => exact .pops form rfl partner
  | reads form counted literal => exact .reads form rfl literal
  | skips form inert incomplete => exact .skips form inert incomplete rfl

theorem Halts.counting_of_outside
    {half : Bool}
    {stack : Stack}
    {text : List Char}
    {scan : Scan}
    (halts : Halts (counting false continues) ⟨false, half, stack, text⟩ scan) :
    Halts (counting true continues) ⟨false, half, stack, text⟩ scan := by
  cases halts with
  | lineEnd form => exact .lineEnd form
  | mismatch form single => exact .mismatch form single

/-- Outside comments, a step leads to code, to a literal or into a new comment. -/
theorem Step.alike_of_outside
    {half : Bool}
    {stack : Stack}
    {text consumed : List Char}
    {next : Cursor}
    (step : Step (counting false continues) ⟨false, half, stack, text⟩ consumed
      next)
    (sound : Cursor.Sound ⟨false, half, stack, text⟩) :
    next.Alike next := by
  rcases next with ⟨inComment, later, after, rest⟩
  have kept := step.sound sound
  cases inComment with
  | false => exact .same kept.inComment_stack
  | true =>
      have outside := sound.inComment_stack
      rcases step.opens_comment sound outside kept.inComment_stack with
        ⟨opened, -, rfl⟩
      exact .comment [] opened later rest

/-- Inside a comment, a token that is no quote is passed over or counted. -/
theorem Step.exists_counting_of_comment
    {half : Bool}
    {opened : List Bracket}
    {text consumed : List Char}
    {next : Cursor}
    (step : Step (counting false continues)
      ⟨true, half, Stack.ofComment [] opened, text⟩ consumed next)
    (inner : List Bracket)
    (quiet : ∀ quote, (Lexeme.next text).kind ≠ .quote quote) :
    ∃ counted, Step (counting true continues)
        ⟨true, half, Stack.ofComment inner opened, text⟩ consumed counted ∧
      next.Alike counted := by
  cases step with
  | closes form unwound =>
      rw [Stack.unwind_comment] at unwound
      cases unwound
      exact ⟨_, .closes form (Stack.unwind_comment inner opened),
        .same (Stack.inComment_ofCode opened)⟩
  | @passes _ _ kind _ gap value rest form notEnd incomplete =>
      rw [form.next_eq] at quiet
      cases kind with
      | quote quote => exact (quiet quote rfl).elim
      | endOfLine => exact (notEnd rfl).elim
      | opening bracket =>
          exact ⟨_, .pushes form rfl, .comment (bracket :: inner) opened _ _⟩
      | closing bracket =>
          by_cases partner : (Stack.ofComment inner opened).top? =
              some (.bracket (.opening bracket))
          · cases inner with
            | nil => cases partner
            | cons counted inner =>
                exact ⟨_, .pops form rfl partner, .comment inner opened _ _⟩
          · exact ⟨_, .ignores form rfl partner, .comment inner opened _ _⟩
      | slash | asterisk | hash | identifier | other =>
          exact ⟨_, .skips form rfl incomplete rfl, .comment inner opened _ _⟩
  | pushes form counted | pops form counted | ignores form counted
  | reads form counted | skips form inert incomplete counted => cases counted

/-- Scans that give the same verdict and leave stacks that are alike. -/
structure Alike
    (first second : Scan) :
    Prop where
  stack : first.stack.Alike second.stack
  mismatched : first.mismatched = second.mismatched

theorem Halts.exists_counting_of_comment
    {half : Bool}
    {opened : List Bracket}
    {text : List Char}
    {scan : Scan}
    (halts : Halts (counting false continues)
      ⟨true, half, Stack.ofComment [] opened, text⟩ scan)
    (inner : List Bracket) :
    ∃ counted, Halts (counting true continues)
        ⟨true, half, Stack.ofComment inner opened, text⟩ counted ∧
      scan.Alike counted := by
  cases halts with
  | lineEnd form =>
      refine ⟨_, .lineEnd form, ?_⟩
      unfold atLineEnd
      split
      · rw [Stack.unwind_comment, Stack.unwind_comment]
        exact ⟨.same (Stack.inComment_ofCode opened), rfl⟩
      · exact ⟨.comment inner opened, rfl⟩
  | lost form missing =>
      rw [Stack.unwind_comment] at missing
      cases missing

/-- The cursors that a scan comes to. -/
def Comes
    (policy : Policy) :
    Cursor → Cursor → Prop :=
  Relation.ReflTransGen fun cursor next =>
    ∃ consumed, Step policy cursor consumed next

/-- The text that is left at a cursor is the end of the text where the scan began. -/
theorem Comes.suffix
    {policy : Policy}
    {start cursor : Cursor}
    (comes : Comes policy start cursor) :
    cursor.text <:+ start.text := by
  induction comes with
  | refl => exact List.suffix_refl _
  | tail _ step induction =>
      rcases step with ⟨consumed, step⟩
      exact .trans ⟨consumed, step.text_eq.symm⟩ induction

/-- A comment that is opened is opened with an asterisk. -/
theorem Comes.inComment
    {policy : Policy}
    {start cursor : Cursor}
    (comes : Comes policy start cursor)
    (inside : cursor.inComment = true) :
    start.inComment = true ∨ '*' ∈ start.text := by
  induction comes with
  | refl => exact .inl inside
  | @tail middle next comes step induction =>
      rcases step with ⟨consumed, step⟩
      cases step with
      | opens form =>
          have symbol : Lexeme.symbol? '*' = some .asterisk := rfl
          rcases form.value_eq symbol with ⟨rfl, -⟩
          exact .inr ((Comes.suffix comes).mem (by rw [form.text_eq]; simp))
      | closes => cases inside
      | passes | pushes | pops | ignores | reads | skips => exact induction inside

/-- A quote that is the next token stands in the text. -/
theorem quote_mem_of_kind
    {text : List Char}
    {quote : Quote}
    (kind : (Lexeme.next text).kind = .quote quote) :
    quote.character ∈ text := by
  have form := Lexeme.form_next text
  generalize Lexeme.next text = lexeme at form kind
  rcases lexeme with ⟨gap, found, value, rest⟩
  cases kind
  rcases form.value_eq (Lexeme.symbol?_quote quote) with ⟨rfl, -⟩
  rw [form.text_eq]
  simp

theorem Cursor.MeetsQuote.mem_text
    {cursor : Cursor}
    (met : cursor.MeetsQuote) :
    ∃ quote : Quote, quote.character ∈ cursor.text := by
  rcases met with ⟨-, quote, kind⟩
  exact ⟨quote, quote_mem_of_kind kind⟩

/-- Where no quote is met inside a comment, scans of alike cursors are alike. -/
theorem Cursor.Alike.run
    {first second : Cursor}
    (alike : first.Alike second)
    (sound : first.Sound)
    (quiet : ∀ cursor, Comes (counting false continues) first cursor →
      ¬ cursor.MeetsQuote) :
    (first.run (counting false continues)).Alike
      (second.run (counting true continues)) := by
  induction first using Cursor.inductionOn (counting false continues)
    generalizing second with
  | halt cursor scan halts =>
      rw [halts.run_eq]
      cases alike with
      | same outside =>
          rw [halts.counting_of_outside.run_eq]
          have kept := halts.stack_of_outside rfl
          exact ⟨.same (kept ▸ outside), rfl⟩
      | comment inner opened half text =>
          rcases halts.exists_counting_of_comment inner with ⟨counted, ends, alike⟩
          rw [ends.run_eq]
          exact alike
  | step cursor consumed next step induction =>
      have later : ∀ cursor, Comes (counting false continues) next cursor →
          ¬ cursor.MeetsQuote :=
        fun cursor comes => quiet cursor (.head ⟨consumed, step⟩ comes)
      rw [step.run_eq]
      cases alike with
      | same outside =>
          rw [step.counting_of_outside.run_eq]
          exact induction (step.alike_of_outside sound) (step.sound sound) later
      | comment inner opened half text =>
          have here := quiet _ .refl
          rcases step.exists_counting_of_comment inner
              (fun quote met => here ⟨rfl, quote, met⟩) with
            ⟨counted, taken, alike⟩
          rw [taken.run_eq]
          exact induction alike (step.sound sound) later

end Scan

namespace Validator

open Scan (Cursor counting)

/-- Whether a quote is read as a token inside a comment when a line is scanned. -/
def MeetsQuote
    (validator : Validator)
    (line : List Char) :
    Prop :=
  ∃ start cursor,
    Moves (.between validator) (.inside validator line start) ∧
      Scan.Comes validator.policy start cursor ∧ cursor.MeetsQuote

/-- A quote is met inside a comment on a line with a quote and with a comment only. -/
theorem MeetsQuote.mem_line
    {validator : Validator}
    {line : List Char}
    (shaped : validator.stack.Shaped)
    (met : validator.MeetsQuote line) :
    (∃ quote : Quote, quote.character ∈ line) ∧
      (validator.inComment = true ∨ '*' ∈ line) := by
  rcases met with ⟨start, cursor, begins, comes, met⟩
  rcases met.mem_text with ⟨quote, member⟩
  have inside := comes.suffix.mem member
  cases begins with
  | begins outside =>
      exact ⟨⟨quote, inside⟩, comes.inComment met.1⟩
  | @resumes _ _ covered rest _ literal closed =>
      have whole := LiteralContent.append_of_read closed
      have below : validator.stack.tail.inComment = false := by
        rcases eq_ofLiteral_of_top? shaped literal with ⟨opened, same⟩
        rw [same]
        exact Stack.inComment_ofCode opened
      refine ⟨⟨quote, ?_⟩, ?_⟩
      · rw [← whole]
        exact List.mem_append_right _ inside
      · rcases comes.inComment met.1 with commented | asterisk
        · cases below.symm.trans commented
        · rw [← whole]
          exact .inr (List.mem_append_right _ asterisk)

/-- Validators that took the same lines and differ in what they count in comments. -/
structure Twins
    (continues : Bool)
    (first second : Validator) :
    Prop where
  shaped : first.stack.Shaped
  passes : first.policy = counting false continues
  counts : second.policy = counting true continues
  input : first.input = second.input
  stack : first.stack.Alike second.stack

variable {continues : Bool} {first second : Validator}

theorem twins_new
    (continues : Bool) :
    Twins continues (new (counting false continues))
      (new (counting true continues)) :=
  ⟨.code [], rfl, rfl, rfl, .same rfl⟩

/-- Twins scan a line alike if no quote is met inside a comment. -/
theorem Twins.ofLine
    (twins : Twins continues first second)
    {line : List Char}
    (quiet : ¬ first.MeetsQuote line) :
    (Scan.ofLine first.policy first.stack line).Alike
      (Scan.ofLine second.policy second.stack line) := by
  rcases first with ⟨policy, input, stack⟩
  rcases second with ⟨policy', input', stack'⟩
  rcases twins with ⟨shaped, passes, counts, -, alike⟩
  dsimp only at shaped passes counts alike ⊢
  subst passes counts
  have unmet : ∀ start,
      Moves (.between ⟨counting false continues, input, stack⟩)
        (.inside ⟨counting false continues, input, stack⟩ line start) →
      ∀ cursor, Scan.Comes (counting false continues) start cursor →
        ¬ cursor.MeetsQuote :=
    fun start begins cursor comes met =>
      quiet ⟨start, cursor, begins, comes, met⟩
  cases alike with
  | comment inner opened =>
      have outside : continuesLiteral
          ⟨counting false continues, input, .ofComment [] opened⟩ = false := rfl
      have here := unmet _ (.begins outside)
      rw [beginning_ofComment] at here
      rw [Scan.ofLine_ofComment, Scan.ofLine_ofComment]
      exact (Cursor.Alike.comment inner opened false line).run
        (.comment [] opened false line) here
  | same outside =>
      cases shaped with
      | comment inner opened =>
          rw [Stack.inComment_ofComment] at outside
          cases outside
      | code opened =>
          have plain : continuesLiteral
              ⟨counting false continues, input, .ofCode opened⟩ = false := by
            cases opened <;> rfl
          have here := unmet _ (.begins plain)
          rw [beginning_ofCode] at here
          rw [Scan.ofLine_ofCode, Scan.ofLine_ofCode]
          exact (Cursor.Alike.same outside).run (.code opened false line) here
      | literal quote opened =>
          rw [Scan.ofLine_ofLiteral, Scan.ofLine_ofLiteral]
          generalize found : LiteralContent.read quote line = content at *
          rcases content with ⟨covered, _ | escaping, rest⟩
          · have here := unmet _ (.resumes rfl found)
            have below : (Stack.ofLiteral quote opened).tail = .ofCode opened :=
              rfl
            rw [below, beginning_ofCode] at here
            exact (Cursor.Alike.same (Stack.inComment_ofCode opened)).run
              (.code opened false rest) here
          · exact ⟨.same outside, rfl⟩

theorem Twins.continuesLiteral_eq
    (twins : Twins continues first second) :
    first.continuesLiteral = second.continuesLiteral := by
  rcases first with ⟨policy, input, stack⟩
  rcases second with ⟨policy', input', stack'⟩
  have alike : stack.Alike stack' := twins.stack
  cases alike with
  | same => rfl
  | comment inner opened => cases inner <;> rfl

/-- Twins give the same verdict on a line without such quotes and stay twins. -/
theorem Twins.validate
    (twins : Twins continues first second)
    {line : List Char}
    (quiet : ¬ first.MeetsQuote line) :
    (first.validate line).1 = (second.validate line).1 ∧
      Twins continues (first.validate line).2 (second.validate line).2 := by
  have alike := twins.ofLine quiet
  refine ⟨?_, ?_, twins.passes, twins.counts, ?_, alike.stack⟩
  · simp only [Validator.validate, verdictOf, alike.mismatched,
      alike.stack.isEmpty_eq]
  · exact (Scan.ofLine_shaped twins.shaped line).1
  · rw [input_validate, input_validate, twins.continuesLiteral_eq, twins.input]

/-- Whether a quote is met inside a comment when lines are fed one after the other. -/
def MeetsQuoteAmong
    (validator : Validator)
    (lines : List (List Char)) :
    Prop :=
  ∃ front line, front ++ [line] <+: lines ∧
    (validator.after front).MeetsQuote line

theorem meetsQuoteAmong_cons_iff
    {validator : Validator}
    {line : List Char}
    {lines : List (List Char)} :
    validator.MeetsQuoteAmong (line :: lines) ↔
      validator.MeetsQuote line ∨
        (validator.validate line).2.MeetsQuoteAmong lines := by
  constructor
  · rintro ⟨front, last, early, met⟩
    cases front with
    | nil =>
        cases (List.cons_prefix_cons.mp early).1
        exact .inl met
    | cons first front =>
        rcases List.cons_prefix_cons.mp early with ⟨rfl, rest⟩
        exact .inr ⟨front, last, rest, met⟩
  · rintro (met | ⟨front, last, early, met⟩)
    · exact ⟨[], line, ⟨lines, rfl⟩, met⟩
    · exact ⟨line :: front, last, List.cons_prefix_cons.mpr ⟨rfl, early⟩, met⟩

theorem not_meetsQuoteAmong_nil
    (validator : Validator) :
    ¬ validator.MeetsQuoteAmong [] := by
  rintro ⟨front, line, early, -⟩
  simp at early

/-- Whether no line has both a quote and a comment, as its characters tell. -/
def separatesQuotes (validator : Validator) : List (List Char) → Bool
  | [] => true
  | line :: lines =>
      !(line.any (Quote.ofCharacter? · |>.isSome) &&
          (validator.inComment || line.contains '*')) &&
        separatesQuotes (validator.validate line).2 lines

theorem not_meetsQuoteAmong_of_separatesQuotes
    {validator : Validator}
    (reachable : validator.Reachable)
    {lines : List (List Char)}
    (separates : validator.separatesQuotes lines = true) :
    ¬ validator.MeetsQuoteAmong lines := by
  induction lines generalizing validator with
  | nil => exact not_meetsQuoteAmong_nil validator
  | cons line lines induction =>
      rw [separatesQuotes, Bool.and_eq_true] at separates
      rw [meetsQuoteAmong_cons_iff, not_or]
      refine ⟨?_, induction (reachable.validate line) separates.2⟩
      intro met
      rcases met.mem_line reachable.shaped with ⟨⟨quote, member⟩, comment⟩
      have quoted : line.any (Quote.ofCharacter? · |>.isSome) = true :=
        List.any_eq_true.mpr ⟨_, member, by simp⟩
      have commented : (validator.inComment || line.contains '*') = true := by
        simpa using comment
      rw [quoted, commented] at separates
      cases separates.1

theorem Twins.verdicts
    (twins : Twins continues first second)
    {lines : List (List Char)}
    (quiet : ¬ first.MeetsQuoteAmong lines) :
    first.verdicts lines = second.verdicts lines ∧
      ∀ front, front <+: lines →
        Twins continues (first.after front) (second.after front) := by
  induction lines generalizing first second with
  | nil =>
      refine ⟨rfl, ?_⟩
      intro front early
      rw [List.prefix_nil.mp early]
      exact twins
  | cons line lines induction =>
      rcases not_or.mp (mt meetsQuoteAmong_cons_iff.mpr quiet) with ⟨here, later⟩
      rcases twins.validate here with ⟨verdict, next⟩
      rcases induction next later with ⟨verdicts, prefixes⟩
      refine ⟨by rw [Validator.verdicts, Validator.verdicts, verdict, verdicts],
        ?_⟩
      intro front early
      rcases List.prefix_cons_iff.mp early with rfl | ⟨rest, rfl, inner⟩
      · exact twins
      · exact prefixes rest inner

/-- Validators whose difference only the depths of their stacks can show. -/
structure Alike
    (first second : Validator) :
    Prop where
  input : first.input = second.input
  inComment : first.inComment = second.inComment
  /-- The stacks agree up to and including the comment. -/
  throughComment : Entry.throughComment first.stack.entries =
    Entry.throughComment second.stack.entries
  /-- The stacks agree entirely when no comment is open. -/
  outside : first.inComment = false → first.stack = second.stack

theorem Twins.alike
    (twins : Twins continues first second) :
    Alike first second where
  input := twins.input
  inComment := twins.stack.inComment_eq
  throughComment := twins.stack.throughComment_eq
  outside := twins.stack.eq_of_outside

/--
Where no quote is met inside a comment, counting the brackets in comments changes no
verdict, and after every line it can be seen in nothing but the depth of the stack.
-/
theorem alike_of_not_meetsQuoteAmong
    (continues : Bool)
    {lines : List (List Char)}
    (quiet : ¬ (new (counting false continues)).MeetsQuoteAmong lines) :
    (new (counting false continues)).verdicts lines =
        (new (counting true continues)).verdicts lines ∧
      ∀ front, front <+: lines →
        Alike ((new (counting false continues)).after front)
          ((new (counting true continues)).after front) := by
  rcases (twins_new continues).verdicts quiet with ⟨verdicts, twins⟩
  exact ⟨verdicts, fun front early => (twins front early).alike⟩

/-- Brackets of every sort inside a comment, and behind it two literals. -/
def commentedLines : List (List Char) :=
  ["f( /* ( [".toList, "] ( */ x".toList, "'a\\".toList, "b' \"c".toList]

/-- In the commented lines, brackets are counted inside the comment and never show. -/
theorem alike_commentedLines :
    ¬ (new (counting false true)).MeetsQuoteAmong commentedLines ∧
      (new (counting false true)).verdicts commentedLines =
        (new (counting true true)).verdicts commentedLines := by
  have quiet : ¬ (new (counting false true)).MeetsQuoteAmong commentedLines :=
    not_meetsQuoteAmong_of_separatesQuotes (.new _) (by decide +kernel)
  exact ⟨quiet, (alike_of_not_meetsQuoteAmong true quiet).1⟩

end Validator

end Delimit
