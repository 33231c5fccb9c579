import Delimit.Proofs.CharacterMachine
import Delimit.Proofs.ValidatorRun

/-!
# Scanning refines reading characters

A scan follows the machine that reads characters.  After every step, the machine
has read what the scan has read, and stands in the place that the cursor stands
for.  A literal is read as a whole by the scan and character by character by the
machine.

The two part ways only where a line comment mark stands inside a comment, since
the scan lets it swallow the rest of the line.  As long as no line holds such a
mark, a validator and the machine give the same verdicts and keep the same
delimiters open.
-/

namespace Delimit

namespace Machine

/-- What a token of code does. -/
def act
    (machine : Machine) :
    TokenKind → Machine
  | .opening bracket =>
      ⟨.code false, bracket :: machine.opened, machine.mismatched⟩
  | .closing bracket =>
      if machine.opened.head? = some bracket then
        ⟨.code false, machine.opened.tail, machine.mismatched⟩
      else
        ⟨.ignored, machine.opened, true⟩
  | .quote quote => { machine with reading := .literal quote false }
  | kind => { machine with reading := .code (kind == .slash) }

theorem stepCode_of_symbol?
    {character : Char}
    {kind : TokenKind}
    (symbol : Lexeme.symbol? character = some kind)
    (machine : Machine) :
    machine.stepCode character = machine.act kind := by
  unfold Lexeme.symbol? at symbol
  split at symbol
  all_goals
    first
    | cases symbol; rfl
    | cases symbol

theorem stepCode_of_plain
    {character : Char}
    (plain : Lexeme.symbol? character = none)
    (machine : Machine) :
    machine.stepCode character = { machine with reading := .code false } := by
  unfold Lexeme.symbol? at plain
  split at plain
  all_goals
    first
    | cases plain; done
    | simp_all [stepCode, Bracket.ofOpening?, Bracket.ofClosing?,
        Quote.ofCharacter?]

/-- Characters that are no tokens of their own only end what is known of a marker. -/
theorem read_of_plain
    {reading : Bool → Reading}
    {opened : List Bracket}
    (forgets : ∀ half character, Lexeme.symbol? character = none →
      step ⟨reading half, opened, false⟩ character =
        ⟨reading false, opened, false⟩)
    {text : List Char}
    (plain : ∀ character ∈ text, Lexeme.symbol? character = none)
    (half : Bool) :
    (Machine.mk (reading half) opened false).read text =
      ⟨reading (half && text.isEmpty), opened, false⟩ := by
  induction text generalizing half with
  | nil => simp
  | cons character text induction =>
      rw [read_cons, forgets half character (plain character (by simp)),
        List.isEmpty_cons, Bool.and_false]
      apply induction
      intro later member
      exact plain later (List.mem_cons_of_mem _ member)

theorem read_code_of_plain
    {text : List Char}
    (plain : ∀ character ∈ text, Lexeme.symbol? character = none)
    (half : Bool)
    (opened : List Bracket) :
    (Machine.mk (.code half) opened false).read text =
      ⟨.code (half && text.isEmpty), opened, false⟩ := by
  apply read_of_plain _ plain
  intro half character this
  have slash := beq_eq_false_iff_ne.mpr (Lexeme.ne_slash_of_symbol? this)
  have asterisk := beq_eq_false_iff_ne.mpr (Lexeme.ne_asterisk_of_symbol? this)
  simp [step, slash, asterisk, stepCode_of_plain this]

theorem read_comment_of_plain
    {text : List Char}
    (plain : ∀ character ∈ text, Lexeme.symbol? character = none)
    (half : Bool)
    (opened : List Bracket) :
    (Machine.mk (.comment half) opened false).read text =
      ⟨.comment (half && text.isEmpty), opened, false⟩ := by
  apply read_of_plain _ plain
  intro half character this
  have slash := beq_eq_false_iff_ne.mpr (Lexeme.ne_slash_of_symbol? this)
  have asterisk := beq_eq_false_iff_ne.mpr (Lexeme.ne_asterisk_of_symbol? this)
  simp [step, slash, asterisk]

theorem read_ignored
    (text : List Char)
    (opened : List Bracket)
    (mismatched : Bool) :
    (Machine.mk .ignored opened mismatched).read text =
      ⟨.ignored, opened, mismatched⟩ := by
  induction text with
  | nil => rfl
  | cons character text induction => exact induction

/-- What the next character is taken for behind the content of a literal. -/
def behindLiteral
    (quote : Quote) :
    LiteralEnding → Reading
  | .closed => .code false
  | .unclosed escaping => .literal quote escaping

/-- The content of a literal is read to the same end. -/
theorem read_literal
    (quote : Quote)
    (text : List Char)
    (opened : List Bracket) :
    (Machine.mk (.literal quote false) opened false).read
        (LiteralContent.read quote text).covered =
      ⟨behindLiteral quote (LiteralContent.read quote text).ending,
        opened, false⟩ := by
  induction text using LiteralContent.escapeInduction with
  | nil => rw [LiteralContent.read_nil]; rfl
  | lone => rw [LiteralContent.read_lone]; rfl
  | escape escaped text induction =>
      rw [LiteralContent.read_escape]
      exact induction
  | plain character text plain induction =>
      rw [LiteralContent.read_plain plain]
      split
      · rename_i same
        subst same
        simp [step, plain, behindLiteral]
      · rename_i different
        simp only [LiteralContent.covered_prepend, List.singleton_append,
          read_cons, step, plain, different, Bool.false_eq_true, if_false]
        exact induction

/-- A token of code that completes no marker acts by its kind. -/
theorem read_lexeme_code
    {text gap value rest : List Char}
    {kind : TokenKind}
    {half : Bool}
    (form : Lexeme.Form text ⟨gap, kind, value, rest⟩)
    (inner : kind ≠ .endOfLine)
    (incomplete : Scan.completes false half gap kind = false)
    (edge : half = true → text.head? ≠ some '/')
    (opened : List Bracket) :
    (Machine.mk (.code half) opened false).read (gap ++ value) =
      act ⟨.code half, opened, false⟩ kind := by
  rcases form.symbol_or_plain inner with
    ⟨character, rfl, symbol, -⟩ | ⟨wordy, plain⟩
  · have noComment : (half && gap.isEmpty && character == '/') = false := by
      rw [form.text_eq] at edge
      cases half with
      | false => rfl
      | true =>
          cases gap with
          | nil => simpa using edge rfl
          | cons => rfl
    have noMarker : (half && gap.isEmpty && character == '*') = false := by
      rw [Lexeme.symbol?_beq_asterisk symbol]
      exact incomplete
    rw [read_append, read_code_of_plain form.plain_gap,
      read_cons, read_nil, step]
    simp only [noComment, noMarker, Bool.false_eq_true, if_false,
      stepCode_of_symbol? symbol]
    cases kind <;> rfl
  · have some : (gap ++ value).isEmpty = false := by
      simp [form.value_ne_nil inner]
    rw [read_code_of_plain plain, some, Bool.and_false]
    rcases wordy with rfl | rfl <;> rfl

theorem read_lexeme_comment
    {text gap value rest : List Char}
    {kind : TokenKind}
    {half : Bool}
    (form : Lexeme.Form text ⟨gap, kind, value, rest⟩)
    (inner : kind ≠ .endOfLine)
    (incomplete : Scan.completes true half gap kind = false)
    (opened : List Bracket) :
    (Machine.mk (.comment half) opened false).read (gap ++ value) =
      ⟨.comment (kind == .asterisk), opened, false⟩ := by
  rcases form.symbol_or_plain inner with
    ⟨character, rfl, symbol, -⟩ | ⟨wordy, plain⟩
  · have noMarker : (half && gap.isEmpty && character == '/') = false := by
      rw [Lexeme.symbol?_beq_slash symbol]
      exact incomplete
    rw [read_append,
      read_comment_of_plain form.plain_gap,
      read_cons, read_nil, step]
    simp only [noMarker, Bool.false_eq_true, if_false,
      Lexeme.symbol?_beq_asterisk symbol]
  · have some : (gap ++ value).isEmpty = false := by
      simp [form.value_ne_nil inner]
    rw [read_comment_of_plain plain, some, Bool.and_false]
    rcases wordy with rfl | rfl <;> rfl

/-- The machine stands in the place that the cursor stands for. -/
inductive Matches (policy : Policy) : Machine → Scan.Cursor → Prop where
  /-- Both are in code; behind a slash, no line comment begins with that slash. -/
  | code (opened : List Bracket) (half : Bool) (text : List Char)
      (edge : half = true → text.head? ≠ some '/') :
      Matches policy ⟨.code half, opened, false⟩
        ⟨false, half, Stack.ofCode opened, text⟩
  /-- Both are in a comment. -/
  | comment (opened : List Bracket) (half : Bool) (text : List Char) :
      Matches policy ⟨.comment half, opened, false⟩
        ⟨true, half, Stack.ofComment [] opened, text⟩
  /-- Both are in a literal at the end of the line. -/
  | literal (quote : Quote) (escaping : Bool) (opened : List Bracket)
      (continues : policy.continueUnterminatedLiterals = true) :
      Matches policy ⟨.literal quote escaping, opened, false⟩
        ⟨false, false, Stack.ofLiteral quote opened, []⟩
  /-- The scan has dropped the literal that the machine drops with the line. -/
  | dropped (quote : Quote) (escaping : Bool) (opened : List Bracket)
      (drops : policy.continueUnterminatedLiterals = false) :
      Matches policy ⟨.literal quote escaping, opened, false⟩
        ⟨false, false, Stack.ofCode opened, []⟩

variable {policy : Policy}

theorem matches_of_step_code
    {half : Bool}
    {opened : List Bracket}
    {text consumed : List Char}
    {next : Scan.Cursor}
    (edge : half = true → text.head? ≠ some '/')
    (step : Scan.Step policy ⟨false, half, Stack.ofCode opened, text⟩
      consumed next) :
    Matches policy
      ((Machine.mk (.code half) opened false).read consumed) next := by
  cases step with
  | opens form =>
      have symbol : Lexeme.symbol? '*' = some .asterisk := rfl
      rcases form.value_eq symbol with ⟨rfl, -⟩
      exact .comment opened false _
  | @pushes _ _ _ bracket _ _ _ _ form counted =>
      rw [read_lexeme_code form (by simp)
        (Scan.completes_eq_false _ _ _ _ rfl) edge]
      exact .code (bracket :: opened) false _ (by simp)
  | @pops _ _ _ bracket _ _ _ _ form counted partner =>
      cases opened with
      | nil => cases partner
      | cons top opened =>
          cases partner
          have acted : act ⟨.code half, bracket :: opened, false⟩
              (.closing bracket) = ⟨.code false, opened, false⟩ := by
            simp [act]
          rw [read_lexeme_code form (by simp)
            (Scan.completes_eq_false _ _ _ _ rfl) edge, acted]
          exact .code opened false _ (by simp)
  | @reads _ _ _ quote _ _ _ content _ rest ending form counted literal =>
      have whole := read_literal quote content opened
      rw [literal] at whole
      rw [← List.append_assoc, read_append, read_lexeme_code form (by simp)
        (Scan.completes_eq_false _ _ _ _ rfl) edge, act, whole,
        Scan.afterLiteral_code]
      cases ending with
      | closed => exact .code opened false _ (by simp)
      | unclosed escaping =>
          have nothing := LiteralContent.rest_of_unclosed
            (by rw [literal]; simp)
          rw [literal] at nothing
          cases nothing
          cases continues : policy.continueUnterminatedLiterals with
          | true => exact .literal quote escaping opened continues
          | false => exact .dropped quote escaping opened continues
  | @skips _ _ _ kind _ _ _ _ form inert incomplete counted =>
      have inner : kind ≠ .endOfLine := by
        rintro rfl
        cases inert
      have acted : act ⟨.code half, opened, false⟩ kind =
          ⟨.code (kind == .slash), opened, false⟩ := by
        cases kind <;> first | rfl | cases inert
      rw [read_lexeme_code form inner incomplete edge, acted]
      apply Matches.code
      -- Only a slash is remembered, and it begins no line comment.
      intro slash
      rw [beq_iff_eq] at slash
      subst slash
      have symbol : Lexeme.symbol? '/' = some .slash := rfl
      exact (form.value_eq symbol).2 rfl

theorem matches_of_step_comment
    {half : Bool}
    {opened : List Bracket}
    {text consumed : List Char}
    {next : Scan.Cursor}
    (uncounted : policy.commentBracketParity = false)
    (step : Scan.Step policy ⟨true, half, Stack.ofComment [] opened, text⟩
      consumed next) :
    Matches policy
      ((Machine.mk (.comment half) opened false).read consumed) next := by
  have passive : Scan.counts policy true ≠ true := by
    simp [Scan.counts, uncounted]
  cases step with
  | closes form unwound =>
      rw [Stack.unwind_comment] at unwound
      cases unwound
      have symbol : Lexeme.symbol? '/' = some .slash := rfl
      rcases form.value_eq symbol with ⟨rfl, -⟩
      exact .code opened false _ (by simp)
  | passes form inner incomplete =>
      rw [read_lexeme_comment form inner incomplete]
      exact .comment opened _ _
  | pushes form counted => exact (passive counted).elim
  | pops form counted => exact (passive counted).elim
  | ignores form counted => exact (passive counted).elim
  | reads form counted => exact (passive counted).elim
  | skips form inert incomplete counted => exact (passive counted).elim

/-- The machine follows every step of a scan. -/
theorem Matches.step
    {machine : Machine}
    {cursor next : Scan.Cursor}
    {consumed : List Char}
    (matched : Matches policy machine cursor)
    (uncounted : policy.commentBracketParity = false)
    (step : Scan.Step policy cursor consumed next) :
    Matches policy (machine.read consumed) next := by
  cases matched with
  | code opened half text edge => exact matches_of_step_code edge step
  | comment opened half text => exact matches_of_step_comment uncounted step
  | literal => exact absurd step.length_text_lt (by simp)
  | dropped => exact absurd step.length_text_lt (by simp)

/-- The machine at the end of a line reports what the scan of the line reports. -/
structure Agrees
    (policy : Policy)
    (last : Machine)
    (scan : Scan) :
    Prop where
  /-- A mismatch is reported by both or by neither. -/
  mismatched : last.mismatched = scan.mismatched
  /-- The same delimiters are open on the next line. -/
  stack : (last.endLine policy).stack = scan.stack

theorem read_lineComment
    (half : Bool)
    (opened : List Bracket)
    (rest : List Char) :
    (Machine.mk (.code half) opened false).read ('/' :: '/' :: rest) =
      ⟨.ignored, opened, false⟩ := by
  cases half <;> exact read_ignored rest opened false

theorem Avoids.of_append
    {machine : Machine}
    {front rest : List Char}
    (avoids : machine.Avoids (front ++ rest)) :
    (machine.read front).Avoids rest := by
  intro offset inside first second
  have whole := avoids (front.length + offset) (by simp; omega)
    (by simpa [List.getElem?_append_right] using first)
    (by simpa [List.getElem?_append_right, Nat.add_assoc] using second)
  rwa [List.take_length_add_append, read_append] at whole

/-- Where a scan halts, the machine that reads the rest of the line agrees with it. -/
theorem Matches.agrees_of_halts
    {machine : Machine}
    {cursor : Scan.Cursor}
    {scan : Scan}
    (matched : Matches policy machine cursor)
    (halts : Scan.Halts policy cursor scan)
    (avoids : machine.Avoids cursor.text) :
    Agrees policy (machine.read cursor.text) scan := by
  cases matched with
  | code opened half text edge =>
      cases halts with
      | lineEnd form =>
          have blank := form.plain_gap
          rcases form.endOfLine_inv with ⟨rfl, rfl⟩ | ⟨comment, rfl, rfl⟩
          · rw [read_code_of_plain blank]
            exact ⟨rfl, rfl⟩
          · rw [read_append, read_code_of_plain blank, read_lineComment]
            exact ⟨rfl, rfl⟩
      | @mismatch _ _ bracket _ gap value rest form single =>
          have unopened : opened.head? ≠ some bracket := by
            cases opened with
            | nil => simp
            | cons top opened =>
                rintro ⟨⟩
                exact single rfl
          have acted : act ⟨.code half, opened, false⟩ (.closing bracket) =
              ⟨.ignored, opened, true⟩ := by
            simp [act, unopened]
          have text_eq : text = gap ++ value ++ rest := by
            simpa using form.text_eq
          change Agrees policy (Machine.read _ text) _
          rw [text_eq, read_append, read_lexeme_code form (by simp)
            (Scan.completes_eq_false _ _ _ _ rfl) edge, acted, read_ignored]
          exact ⟨rfl, rfl⟩
  | comment opened half text =>
      cases halts with
      | @lineEnd _ _ _ _ gap _ _ form =>
          have blank := form.plain_gap
          rcases form.endOfLine_inv with ⟨rfl, rfl⟩ | ⟨comment, rfl, rfl⟩
          · rw [read_comment_of_plain blank]
            exact ⟨rfl, rfl⟩
          · -- The line comment mark would begin inside the comment.
            have reached := avoids gap.length (by simp) (by simp) (by simp)
            rw [List.take_left, read_comment_of_plain blank] at reached
            cases reached
      | lost form missing =>
          rw [Stack.unwind_comment] at missing
          cases missing
  | literal quote escaping opened continues =>
      cases halts with
      | lineEnd form => exact ⟨rfl, by simp [endLine, continues]; rfl⟩
      | mismatch form => cases form.kind_of_nil
  | dropped quote escaping opened drops =>
      cases halts with
      | lineEnd form => exact ⟨rfl, by simp [endLine, drops]; rfl⟩
      | mismatch form => cases form.kind_of_nil

theorem Matches.agrees
    {machine : Machine}
    {cursor : Scan.Cursor}
    (matched : Matches policy machine cursor)
    (uncounted : policy.commentBracketParity = false)
    (avoids : machine.Avoids cursor.text) :
    Agrees policy (machine.read cursor.text) (cursor.run policy) := by
  induction cursor using Scan.Cursor.inductionOn policy
    generalizing machine with
  | halt cursor scan halts =>
      rw [halts.run_eq]
      exact matched.agrees_of_halts halts avoids
  | step cursor consumed next step induction =>
      rw [step.text_eq] at avoids ⊢
      rw [step.run_eq, read_append]
      exact induction (matched.step uncounted step) avoids.of_append

/-- The machines that can begin a line. -/
inductive Begins (policy : Policy) : Machine → Prop where
  /-- The line begins in code. -/
  | code (opened : List Bracket) :
      Begins policy ⟨.code false, opened, false⟩
  /-- The line begins in a comment. -/
  | comment (opened : List Bracket) :
      Begins policy ⟨.comment false, opened, false⟩
  /-- The line begins in a literal. -/
  | literal (quote : Quote) (opened : List Bracket)
      (continues : policy.continueUnterminatedLiterals = true) :
      Begins policy ⟨.literal quote false, opened, false⟩

theorem begins_endLine
    (policy : Policy)
    (machine : Machine) :
    (machine.endLine policy).Begins policy := by
  rcases machine with ⟨reading, opened, mismatched⟩
  cases reading with
  | code half => exact .code opened
  | comment half => exact .comment opened
  | ignored => exact .code opened
  | literal quote escaping =>
      cases continues : policy.continueUnterminatedLiterals with
      | true =>
          simpa [endLine, continues] using
            Begins.literal quote opened continues
      | false =>
          simpa [endLine, continues] using Begins.code opened

theorem Begins.agrees
    {machine : Machine}
    {line : List Char}
    (begins : machine.Begins policy)
    (uncounted : policy.commentBracketParity = false)
    (avoids : machine.Avoids line) :
    Agrees policy (machine.read line)
      (Scan.ofLine policy machine.stack line) := by
  cases begins with
  | code opened =>
      have matched : Matches policy _ _ := .code opened false line (by simp)
      exact Scan.ofLine_ofCode policy opened line ▸
        matched.agrees uncounted avoids
  | comment opened =>
      have matched : Matches policy _ _ := .comment opened false line
      exact Scan.ofLine_ofComment policy [] opened line ▸
        matched.agrees uncounted avoids
  | literal quote opened continues =>
      have front := read_literal quote line opened
      have whole := LiteralContent.read_append quote line
      change Agrees policy _ (Scan.ofLine policy (.ofLiteral quote opened) line)
      rw [Scan.ofLine_ofLiteral]
      cases ending : (LiteralContent.read quote line).ending with
      | closed =>
          rw [ending] at front
          have matched : Matches policy _ _ := .code opened false
            (LiteralContent.read quote line).rest (by simp)
          have later := avoids
          rw [← whole] at later
          have agrees := matched.agrees uncounted
            (front ▸ later.of_append)
          change Agrees policy (Machine.read _ _) _ at agrees
          rw [behindLiteral] at front
          rw [← front, ← read_append, whole] at agrees
          exact agrees
      | unclosed escaping =>
          have nothing := LiteralContent.rest_of_unclosed
            (by rw [ending]; simp)
          rw [nothing, List.append_nil] at whole
          rw [whole, ending] at front
          rw [front]
          exact ⟨rfl, by simp [behindLiteral, endLine, continues]; rfl⟩

/-- On a line, the machine and a validator with its stack say and keep the same. -/
theorem Begins.validate
    {machine : Machine}
    {validator : Validator}
    {line : List Char}
    (begins : machine.Begins validator.policy)
    (uncounted : validator.policy.commentBracketParity = false)
    (avoids : machine.Avoids line)
    (together : validator.stack = machine.stack) :
    (validator.validate line).1 =
        (machine.validate validator.policy line).1 ∧
      (validator.validate line).2.stack =
        (machine.validate validator.policy line).2.stack := by
  have agrees := begins.agrees uncounted avoids
  rw [← together] at agrees
  constructor
  · rw [Validator.validate, Machine.validate, Validator.verdictOf]
    simp only [agrees.mismatched, agrees.stack]
  · exact agrees.stack.symm

theorem Begins.verdicts_eq
    {machine : Machine}
    {validator : Validator}
    {lines : List (List Char)}
    (begins : machine.Begins validator.policy)
    (uncounted : validator.policy.commentBracketParity = false)
    (avoids : machine.AvoidsAll validator.policy lines)
    (together : validator.stack = machine.stack) :
    validator.verdicts lines = machine.verdicts validator.policy lines := by
  induction lines generalizing machine validator with
  | nil => rfl
  | cons line lines induction =>
      rcases begins.validate uncounted avoids.1 together with
        ⟨same, next⟩
      have later : (validator.validate line).2.verdicts lines = _ :=
        induction (begins_endLine _ _) uncounted avoids.2 next
      rw [Validator.verdicts, same, later]
      rfl

theorem Begins.stack_after
    {machine : Machine}
    {validator : Validator}
    {lines : List (List Char)}
    (begins : machine.Begins validator.policy)
    (uncounted : validator.policy.commentBracketParity = false)
    (avoids : machine.AvoidsAll validator.policy lines)
    (together : validator.stack = machine.stack) :
    (validator.after lines).stack =
      (machine.after validator.policy lines).stack := by
  induction lines generalizing machine validator with
  | nil => exact together
  | cons line lines induction =>
      rcases begins.validate uncounted avoids.1 together with ⟨-, next⟩
      exact induction (begins_endLine _ _) uncounted avoids.2 next

theorem AvoidsAll.of_prefix
    {machine : Machine}
    {earlier lines : List (List Char)}
    (avoids : machine.AvoidsAll policy lines)
    (front : earlier <+: lines) :
    machine.AvoidsAll policy earlier := by
  induction earlier generalizing machine lines with
  | nil => trivial
  | cons line earlier induction =>
      rcases front with ⟨later, rfl⟩
      exact ⟨avoids.1, induction avoids.2 (List.prefix_append _ _)⟩

end Machine

namespace Validator

/--
A validator that passes over comments follows the machine that reads characters:
on every line it gives the same verdict, and after every line the same delimiters
are open, as long as no line comment mark begins inside a comment.
-/
theorem verdicts_eq_machine
    {policy : Policy}
    {lines : List (List Char)}
    (uncounted : policy.commentBracketParity = false)
    (avoids : Machine.start.AvoidsAll policy lines) :
    (new policy).verdicts lines = Machine.start.verdicts policy lines ∧
      ∀ earlier, earlier <+: lines →
        ((new policy).after earlier).stack =
          (Machine.start.after policy earlier).stack := by
  have begins : Machine.start.Begins (new policy).policy := .code []
  constructor
  · exact begins.verdicts_eq uncounted avoids rfl
  · intro earlier front
    exact begins.stack_after uncounted (avoids.of_prefix front) rfl

/-- A comment that its own first slash does not close, and a spliced literal. -/
def markerLines : List (List Char) :=
  ["f(/*/ \"[".toList, "*/ \"a\\".toList, "b\" ]".toList]

/-- On the marker lines, a validator follows the machine that reads characters. -/
theorem verdicts_markerLines :
    Policy.commentBracketParity {} = false ∧
      Machine.start.AvoidsAll {} markerLines ∧
      (new {}).verdicts markerLines = Machine.start.verdicts {} markerLines ∧
        ∀ earlier, earlier <+: markerLines →
          ((new {}).after earlier).stack =
            (Machine.start.after {} earlier).stack :=
  ⟨rfl, by decide, verdicts_eq_machine rfl (by decide)⟩

end Validator

end Delimit
