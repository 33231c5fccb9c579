import Delimit.Proofs.CheckedOperations
import Delimit.Proofs.CountedComments
import Delimit.Proofs.LiteralSuspension
import Delimit.Proofs.Spelled
import Mathlib.Data.List.Induction

/-!
# Escapes that wait at the end of a line

A line that leaves a literal open may end in a backslash that still waits for the
character it escapes.  The scan of the literal knows this from the line alone; when the
next line comes, the validator tells it from the backslashes at the end of all its
input.  The two never disagree.

Joining a line to an open literal keeps them in step: a splice takes the waiting
backslash away and leaves an even number, any other join puts a letter in between, and a
literal that begins on the line has its quote there.
-/

namespace Delimit

/-- Text without a waiting backslash does not count for what comes behind it. -/
theorem endsWithSplice_append
    {front : List Char}
    (settled : endsWithSplice front = false)
    (back : List Char) :
    endsWithSplice (front ++ back) = endsWithSplice back := by
  simp only [endsWithSplice, beq_eq_false_iff_ne] at settled
  have parity : trailingBackslashes (front ++ back) % 2 =
      trailingBackslashes back % 2 := by
    simp only [trailingBackslashes, List.reverse_append,
      List.takeWhile_append] at settled ⊢
    split
    · rename_i whole
      rw [List.length_append, whole]
      omega
    · rfl
  rw [endsWithSplice, endsWithSplice, parity]

/-- Without its waiting backslash, a text has none. -/
theorem endsWithSplice_dropLast
    {text : List Char}
    (splice : endsWithSplice text = true) :
    endsWithSplice text.dropLast = false := by
  rcases List.getLast?_eq_some_iff.mp (getLast?_of_endsWithSplice splice) with
    ⟨front, rfl⟩
  simp only [endsWithSplice, trailingBackslashes, List.reverse_append,
    List.reverse_singleton, List.singleton_append, beq_self_eq_true,
    List.takeWhile_cons_of_pos, List.length_cons, beq_iff_eq] at splice
  rw [List.dropLast_concat, endsWithSplice, trailingBackslashes, beq_eq_false_iff_ne]
  omega

/-- Whether a backslash waits in a continued literal is decided by its last line. -/
theorem endsWithSplice_joinLine
    (input line : List Char) :
    endsWithSplice (joinLine true input line) = endsWithSplice line := by
  unfold joinLine
  split
  · rfl
  · split
    · contradiction
    · split
      · rename_i splice
        exact endsWithSplice_append (endsWithSplice_dropLast splice) line
      · have apart := @endsWithSplice_append_cons 'n' (by decide)
          (input ++ ['\\']) line
        rwa [List.append_assoc] at apart

namespace Scan

variable {policy : Policy}

/--
Whether the next token begins a literal that runs to the end of the line, with a
backslash that waits there or with none.
-/
def Cursor.LeavesOpen
    (policy : Policy)
    (cursor : Cursor)
    (escaping : Bool) :
    Prop :=
  counts policy cursor.inComment = true ∧
    ∃ quote, (Lexeme.next cursor.text).kind = .quote quote ∧
      (LiteralContent.read quote (Lexeme.next cursor.text).rest).ending =
        .unclosed escaping

/-- Behind its quote, a text ends like the content of the literal. -/
theorem Cursor.LeavesOpen.endsWithSplice_append
    {cursor : Cursor}
    {escaping : Bool}
    (open_ : cursor.LeavesOpen policy escaping)
    (front : List Char) :
    endsWithSplice (front ++ cursor.text) = escaping := by
  rcases open_ with ⟨-, quote, kind, unclosed⟩
  have form := Lexeme.form_next cursor.text
  generalize Lexeme.next cursor.text = lexeme at form kind unclosed
  rcases lexeme with ⟨gap, found, value, content⟩
  cases kind
  rcases form.quote_inv with ⟨rfl, -⟩
  have quoted := endsWithSplice_append_cons quote.character_ne_backslash
    (front ++ gap) content
  rw [form.text_eq, ← List.append_assoc, List.singleton_append, quoted]
  exact (LiteralContent.ending_of_unclosed unclosed).symm

/-- A scan that leaves a literal open comes to the quote with which it begins. -/
theorem Cursor.Sound.exists_leavesOpen
    {cursor : Cursor}
    {quote : Quote}
    {opened : List Bracket}
    (sound : cursor.Sound)
    (fresh : ∀ quote opened, cursor.stack ≠ Stack.ofLiteral quote opened)
    (suspended : (cursor.run policy).stack = Stack.ofLiteral quote opened) :
    ∃ later escaping, Comes policy cursor later ∧
      later.LeavesOpen policy escaping := by
  induction cursor using Cursor.inductionOn policy with
  | halt cursor scan halts =>
      rw [halts.run_eq] at suspended
      exact (halts.ne_ofLiteral sound fresh quote opened suspended).elim
  | step cursor consumed next step induction =>
      rw [step.run_eq] at suspended
      by_cases literal :
          ∃ quote opened, next.stack = Stack.ofLiteral quote opened
      · rcases literal with ⟨before, outer, literal⟩
        rcases step.literal_inv sound literal with
          ⟨code, -, -, gap, content, form, unclosed⟩
        cases ending : (LiteralContent.read before content).ending with
        | closed => exact (unclosed ending).elim
        | unclosed escaping =>
            refine ⟨cursor, escaping, .refl, ?_, before, ?_, ?_⟩
            · simp [counts, code]
            · rw [form.next_eq]
            · rw [form.next_eq]
              exact ending
      · have later : ∀ quote opened,
            next.stack ≠ Stack.ofLiteral quote opened :=
          fun quote opened equal => literal ⟨quote, opened, equal⟩
        rcases induction (step.sound sound) later suspended with
          ⟨last, escaping, comes, open_⟩
        exact ⟨last, escaping, .head ⟨consumed, step⟩ comes, open_⟩

end Scan

namespace Validator

open Scan (Cursor)

/--
The scan of a literal runs to the end of a line, with a backslash that waits there or
with none.
-/
inductive RunsOut
    (validator : Validator)
    (line : List Char)
    (escaping : Bool) :
    Prop where
  /-- The line goes on with an open literal and does not close it. -/
  | continued {quote : Quote}
      (literal : validator.stack.top? = some (.literal (.quote quote)))
      (unclosed : (LiteralContent.read quote line).ending = .unclosed escaping)
  /-- A literal begins on the line and is not closed on it. -/
  | begun {start cursor : Cursor}
      (begins : Moves (.between validator) (.inside validator line start))
      (comes : Scan.Comes validator.policy start cursor)
      (open_ : cursor.LeavesOpen validator.policy escaping)

variable {validator : Validator} {line : List Char}

/-- The scan of a line begins at the end of an open literal, or with the line. -/
theorem Moves.text_suffix
    {start : Cursor}
    (begins : Moves (.between validator) (.inside validator line start)) :
    start.text <:+ line := by
  cases begins with
  | begins => exact List.suffix_refl _
  | resumes literal closed =>
      exact ⟨_, LiteralContent.append_of_read closed⟩

/-- A backslash that waits at the end of a line waits at the end of the input. -/
theorem RunsOut.endsWithSplice_input
    {escaping : Bool}
    (out : validator.RunsOut line escaping) :
    endsWithSplice (validator.validate line).2.input = escaping := by
  rw [input_validate]
  cases out with
  | continued literal unclosed =>
      have continues : validator.continuesLiteral = true := by
        rw [continuesLiteral, literal]
      rw [continues, endsWithSplice_joinLine]
      exact (LiteralContent.ending_of_unclosed unclosed).symm
  | begun begins comes open_ =>
      obtain ⟨before, joined, -⟩ := exists_joinLine_append
        validator.continuesLiteral validator.input line
      rcases comes.suffix.trans begins.text_suffix with ⟨front, whole⟩
      rw [joined, ← whole, ← List.append_assoc]
      exact open_.endsWithSplice_append _

theorem exists_runsOut_of_begins
    {start : Cursor}
    {quote : Quote}
    {opened : List Bracket}
    (begins : Moves (.between validator) (.inside validator line start))
    (sound : Point.Sound (.inside validator line start))
    (fresh : ∀ quote opened, start.stack ≠ Stack.ofLiteral quote opened)
    (suspended : (validator.validate line).2.stack = Stack.ofLiteral quote opened) :
    ∃ escaping, validator.RunsOut line escaping := by
  cases sound with
  | inside sound same =>
      rw [stack_validate, ← same] at suspended
      rcases sound.exists_leavesOpen fresh suspended with
        ⟨cursor, escaping, comes, open_⟩
      exact ⟨escaping, .begun begins comes open_⟩

/-- Where a literal is open behind a line, its scan ran to the end of the line. -/
theorem exists_runsOut
    (shaped : validator.stack.Shaped)
    (continues : (validator.validate line).2.continuesLiteral = true) :
    ∃ escaping, validator.RunsOut line escaping := by
  have later := (@Scan.ofLine_shaped validator.policy _ shaped line).1
  rcases (continuesLiteral_iff later).mp continues with ⟨quote, opened, suspended⟩
  rcases outside_or_eq_ofLiteral shaped with outside | ⟨before, outer, same⟩
  · have code := continuesLiteral_eq_false outside
    have fresh : ∀ quote opened,
        (beginning validator.stack line).stack ≠ Stack.ofLiteral quote opened := by
      intro quote opened literal
      exact outside (.quote quote) (congrArg Stack.top? literal)
    exact exists_runsOut_of_begins (.begins code) (sound_begins shaped code line) fresh
      suspended
  · have literal : validator.stack.top? = some (.literal (.quote before)) := by
      rw [same]
      rfl
    generalize found : LiteralContent.read before line = content
    rcases content with ⟨covered, _ | escaping, rest⟩
    · have fresh : ∀ quote opened, (beginning validator.stack.tail rest).stack ≠
          Stack.ofLiteral quote opened := by
        intro quote opened
        rw [same]
        exact Stack.ofCode_ne_ofLiteral outer opened quote
      exact exists_runsOut_of_begins (.resumes literal found)
        (sound_resumes shaped literal found) fresh suspended
    · exact ⟨escaping, .continued literal (by rw [found])⟩

/-- Behind a line that leaves a literal open, scan and input agree on its end. -/
theorem runsOut_iff
    (shaped : validator.stack.Shaped)
    (continues : (validator.validate line).2.continuesLiteral = true)
    (escaping : Bool) :
    validator.RunsOut line escaping ↔
      endsWithSplice (validator.validate line).2.input = escaping := by
  constructor
  · exact RunsOut.endsWithSplice_input
  · rcases exists_runsOut shaped continues with ⟨found, out⟩
    rintro rfl
    rwa [out.endsWithSplice_input]

end Validator

namespace Operation

/-- The line that an operation scans, if it scans one. -/
def line? : Operation → Option (List Char)
  | validate line => some line
  | _ => none

/-- The last line that some operations scan, with the operations before it. -/
def IsLastLine
    (operations earlier : List Operation)
    (line : List Char) :
    Prop :=
  ∃ later, operations = earlier ++ validate line :: later ∧
    ∀ operation ∈ later, operation.line? = none

theorem IsLastLine.concat
    {operations earlier : List Operation}
    {line : List Char}
    (last : IsLastLine operations earlier line)
    {operation : Operation}
    (none : operation.line? = none) :
    IsLastLine (operations ++ [operation]) earlier line := by
  rcases last with ⟨later, rfl, others⟩
  refine ⟨later ++ [operation], by simp, ?_⟩
  intro other member
  rcases List.mem_append.mp member with old | new
  · exact others other old
  · rwa [List.mem_singleton.mp new]

theorem applyAll_concat
    (validator : Validator)
    (operations : List Operation)
    (operation : Operation) :
    applyAll validator (operations ++ [operation]) =
      apply (applyAll validator operations) operation := by
  rw [applyAll, List.foldl_append]
  rfl

/-- Where a literal is open, only the policy has changed since a line was scanned. -/
theorem exists_isLastLine
    (policy : Policy)
    {operations : List Operation}
    (continues : (applyAll (.new policy) operations).continuesLiteral = true) :
    ∃ earlier line, IsLastLine operations earlier line ∧
      ∃ assigned, applyAll (.new policy) operations =
        { ((applyAll (.new policy) earlier).validate line).2 with policy := assigned } := by
  induction operations using List.reverseRecOn with
  | nil => cases continues
  | append_singleton before operation induction =>
      rw [applyAll_concat] at continues ⊢
      cases operation with
      | validate line => exact ⟨before, line, ⟨[], rfl, nofun⟩, _, rfl⟩
      | reset | takeInput => cases continues
      | assignCommentBracketParity | assignContinueUnterminatedLiterals =>
          rcases induction continues with ⟨earlier, line, last, assigned, same⟩
          rw [same]
          exact ⟨earlier, line, last.concat rfl, _, rfl⟩

/--
Whatever is done to a new validator, where a literal is open its input ends in an odd
number of backslashes just when the scan of the literal ran to the end of the last line
with a backslash that waits there, and in an even number just when it ran to the end with
none.
-/
theorem odd_trailingBackslashes_iff
    (policy : Policy)
    (operations : List Operation) :
    let validator := applyAll (.new policy) operations
    validator.continuesLiteral = true →
      ∃ earlier line, IsLastLine operations earlier line ∧
        (trailingBackslashes validator.input % 2 = 1 ↔
          (applyAll (.new policy) earlier).RunsOut line true) ∧
        (trailingBackslashes validator.input % 2 = 0 ↔
          (applyAll (.new policy) earlier).RunsOut line false) := by
  intro validator continues
  rcases exists_isLastLine policy continues with ⟨earlier, line, last, assigned, same⟩
  have shaped := (reachable_applyAll (.new policy) earlier).shaped
  have behind :
      ((applyAll (.new policy) earlier).validate line).2.continuesLiteral = true :=
    (congrArg Validator.continuesLiteral same).symm.trans continues
  have input : ((applyAll (.new policy) earlier).validate line).2.input =
      validator.input :=
    (congrArg Validator.input same).symm
  have agrees := Validator.runsOut_iff shaped behind
  simp only [input, endsWithSplice] at agrees
  refine ⟨earlier, line, last, ?_, ?_⟩
  · rw [agrees, beq_iff_eq]
  · rw [agrees, beq_eq_false_iff_ne]
    omega

/--
A literal over four lines, an empty one and two of nothing but backslashes among them.
Two of its line breaks are splices, and the policy changes before the last line.
-/
def splicedOperations : List Operation :=
  [ .validate "f(\"a\\".toList, .validate [], .validate "\\\\\\".toList,
    .assignContinueUnterminatedLiterals false, .validate "\\\\".toList ]

/-- Behind the two splices, an even number of backslashes stands at the end. -/
theorem even_splicedOperations :
    let validator := applyAll (.new {}) splicedOperations
    validator.continuesLiteral = true ∧ trailingBackslashes validator.input % 2 = 0 ∧
      ∃ earlier line, IsLastLine splicedOperations earlier line ∧
        (applyAll (.new {}) earlier).RunsOut line false := by
  intro validator
  have continues : validator.continuesLiteral = true := by decide +kernel
  have even : trailingBackslashes validator.input % 2 = 0 := by decide +kernel
  rcases odd_trailingBackslashes_iff {} splicedOperations continues with
    ⟨earlier, line, last, -, runsOut⟩
  exact ⟨continues, even, earlier, line, last, runsOut.mp even⟩

end Operation

end Delimit
