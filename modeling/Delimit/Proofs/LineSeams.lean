import Delimit.Proofs.CountedComments

/-!
# Line breaks as blanks

Where the end of a line cuts no literal short and no line comment hides it, it is
no more than a blank.  Feeding two lines one after the other comes to the same as
feeding them as one line with a space between: a word ends at either, no marker of a
comment reaches across, and whatever is open stays open.
-/

namespace Delimit

namespace Lexeme

theorem isBlank_space : Text.isBlank ' ' = true := by decide +kernel

theorem isWordPart_space : Text.isWordPart ' ' = false := by decide +kernel

/-- What follows a text in front of a space is what follows it alone, or the space. -/
theorem head?_append_space
    {text tail : List Char}
    {character : Char}
    (head : (text ++ ' ' :: tail).head? = some character) :
    text.head? = some character ∨ character = ' ' := by
  cases text with
  | nil =>
      cases head
      exact .inr rfl
  | cons first text => exact .inl head

/-- A token is the same in front of a space. -/
theorem Form.append_space
    {text : List Char}
    {lexeme : Lexeme}
    (form : Form text lexeme)
    (inner : lexeme.kind ≠ .endOfLine)
    (tail : List Char) :
    Form (text ++ ' ' :: tail)
      { lexeme with rest := lexeme.rest ++ ' ' :: tail } := by
  cases form with
  | blankEnd => exact (inner rfl).elim
  | lineComment => exact (inner rfl).elim
  | symbol blank symbol alone =>
      rw [List.append_assoc, List.cons_append]
      refine .symbol blank symbol ?_
      intro slash head
      rcases head?_append_space head with head | space
      · exact alone slash head
      · cases space
  | word blank edge start parts maximal =>
      rw [List.append_assoc, List.cons_append, List.append_assoc]
      refine .word blank edge start parts ?_
      intro following head
      rcases head?_append_space head with head | rfl
      · exact maximal following head
      · exact isWordPart_space
  | other blank edge plain start =>
      rw [List.append_assoc, List.cons_append]
      exact .other blank edge plain start

theorem ofUnblank_append_gap
    (front gap text : List Char) :
    ofUnblank (front ++ gap) text =
      { ofUnblank gap text with gap := front ++ gap } := by
  unfold ofUnblank
  split
  · rfl
  · rfl
  · split
    · rfl
    · split <;> rfl

/-- Blanks in front of a text belong to the gap before its first token. -/
theorem next_append_blank
    {front : List Char}
    (blank : Text.isAllBlank front = true)
    (text : List Char) :
    next (front ++ text) =
      { next text with gap := front ++ (next text).gap } := by
  have all : ∀ character ∈ front, Text.isBlank character = true :=
    List.all_eq_true.mp blank
  rw [next, List.takeWhile_append_of_pos all, List.dropWhile_append_of_pos all,
    ofUnblank_append_gap, next, ofUnblank_gap]

end Lexeme

namespace Scan

variable {policy : Policy}

/-- Whether the next token is a literal that its line does not close. -/
def Cursor.MeetsUnclosed
    (policy : Policy)
    (cursor : Cursor) :
    Prop :=
  counts policy cursor.inComment = true ∧
    ∃ quote, (Lexeme.next cursor.text).kind = .quote quote ∧
      (LiteralContent.read quote (Lexeme.next cursor.text).rest).ending ≠ .closed

/-- Whether the line ends here with a line comment. -/
def Cursor.MeetsLineComment
    (cursor : Cursor) :
    Prop :=
  (Lexeme.next cursor.text).kind = .endOfLine ∧
    (Lexeme.next cursor.text).value ≠ []

theorem Cursor.MeetsUnclosed.mem_text
    {cursor : Cursor}
    (met : cursor.MeetsUnclosed policy) :
    ∃ quote : Quote, quote.character ∈ cursor.text := by
  rcases met with ⟨-, quote, kind, -⟩
  exact ⟨quote, quote_mem_of_kind kind⟩

theorem Cursor.MeetsLineComment.infix_text
    {cursor : Cursor}
    (met : cursor.MeetsLineComment) :
    ['/', '/'] <:+: cursor.text := by
  rcases met with ⟨kind, swallows⟩
  have form := Lexeme.form_next cursor.text
  generalize Lexeme.next cursor.text = lexeme at form kind swallows
  rcases lexeme with ⟨gap, found, value, rest⟩
  cases kind
  rcases form.endOfLine_inv with ⟨-, nothing⟩ | ⟨comment, whole, -⟩
  · exact (swallows nothing).elim
  · exact ⟨gap, comment, by rw [whole]; simp⟩

/-- A cursor with more text behind a space. -/
def Cursor.appendSpace
    (cursor : Cursor)
    (tail : List Char) :
    Cursor :=
  { cursor with text := cursor.text ++ ' ' :: tail }

/-- A step that leaves no literal open is the same in front of a space. -/
theorem Step.appendSpace
    {cursor next : Cursor}
    {consumed : List Char}
    (step : Step policy cursor consumed next)
    (closed : ¬ cursor.MeetsUnclosed policy)
    (tail : List Char) :
    Step policy (cursor.appendSpace tail) consumed (next.appendSpace tail) := by
  cases step with
  | opens form => exact .opens (form.append_space (by simp) tail)
  | closes form unwound =>
      exact .closes (form.append_space (by simp) tail) unwound
  | passes form inner incomplete uncounted =>
      exact .passes (form.append_space inner tail) inner incomplete uncounted
  | pushes form counted =>
      exact .pushes (form.append_space (by simp) tail) counted
  | pops form counted partner =>
      exact .pops (form.append_space (by simp) tail) counted partner
  | ignores form counted single =>
      exact .ignores (form.append_space (by simp) tail) counted single
  | @reads inComment half stack quote text gap value content covered rest ending
      form counted literal =>
      have ended : ending = .closed := by
        cases ending with
        | closed => rfl
        | unclosed escaping =>
            apply (closed ⟨counted, quote, ?_, ?_⟩).elim
            · rw [form.next_eq]
            · rw [form.next_eq, literal]
              simp
      subst ended
      have more := LiteralContent.read_append_of_closed (by rw [literal])
        (rest ++ ' ' :: tail)
      rw [literal, ← List.append_assoc,
        LiteralContent.append_of_read literal] at more
      exact .reads (form.append_space (by simp) tail) counted more
  | skips form inert incomplete counted =>
      exact .skips (form.append_space (by rintro rfl; cases inert) tail) inert
        incomplete counted

/-- Blanks in front of a text only part it from what came before. -/
theorem run_append_blank
    {front : List Char}
    (blank : Text.isAllBlank front = true)
    (some : front ≠ [])
    (inComment half : Bool)
    (stack : Stack)
    (text : List Char) :
    Cursor.run policy ⟨inComment, half, stack, front ++ text⟩ =
      Cursor.run policy ⟨inComment, false, stack, text⟩ := by
  have parted : (front ++ (Lexeme.next text).gap).isEmpty = false := by
    simp [some]
  rw [Cursor.run, Cursor.run]
  conv =>
    lhs
    rw [tokens]
  conv =>
    rhs
    rw [tokens]
  rw [Lexeme.next_append_blank blank]
  simp only [parted, Bool.and_false, Bool.false_and]

/-- A line that ends without a line comment ends in nothing but blanks. -/
theorem blank_of_not_meetsLineComment
    {inComment half : Bool}
    {stack : Stack}
    {text gap swallowed rest : List Char}
    (form : Lexeme.Form text ⟨gap, .endOfLine, swallowed, rest⟩)
    (bare : ¬ Cursor.MeetsLineComment ⟨inComment, half, stack, text⟩) :
    Text.isAllBlank text = true ∧ swallowed = [] := by
  cases form with
  | blankEnd blank => exact ⟨blank, rfl⟩
  | @lineComment _ comment blank =>
      have ended := (@Lexeme.Form.lineComment gap comment blank).next_eq
      exact (bare ⟨by rw [ended], by simp [ended]⟩).elim
  | symbol blank symbol => exact (Lexeme.symbol?_ne_endOfLine _ symbol).elim

/--
Where no literal is cut short and no line comment is met, text behind a space is
scanned as the next line is.
-/
theorem Cursor.Sound.run_appendSpace
    {cursor : Cursor}
    (sound : cursor.Sound)
    (closed : ∀ later, Comes policy cursor later → ¬ later.MeetsUnclosed policy)
    (bare : ∀ later, Comes policy cursor later → ¬ later.MeetsLineComment)
    (matched : (cursor.run policy).mismatched = false)
    (tail : List Char) :
    (cursor.appendSpace tail).run policy =
      (Validator.beginning (cursor.run policy).stack tail).run policy := by
  induction cursor using Cursor.inductionOn policy with
  | halt cursor scan halts =>
      have inStep := (halts.sound sound).2
      rw [halts.run_eq] at matched ⊢
      cases halts with
      | @lineEnd inComment half stack text _ _ _ form =>
          rcases blank_of_not_meetsLineComment form (bare _ .refl) with
            ⟨blank, rfl⟩
          have ended : atLineEnd inComment stack [] = finished stack := by
            cases inComment <;> rfl
          have seam : Text.isAllBlank (text ++ [' ']) = true := by
            simp [blank, Lexeme.isBlank_space]
          have parted := @run_append_blank policy _ seam (by simp) inComment half
            stack tail
          rw [List.append_assoc] at parted
          rw [ended, finished, Validator.beginning, sound.inComment_stack]
          exact parted
      | mismatch => cases matched
      | lost => cases inStep
  | step cursor consumed next step induction =>
      rw [step.run_eq] at matched ⊢
      rw [(step.appendSpace (closed _ .refl) tail).run_eq]
      exact induction (step.sound sound)
        (fun later comes => closed later (.head ⟨consumed, step⟩ comes))
        (fun later comes => bare later (.head ⟨consumed, step⟩ comes)) matched

end Scan

namespace Validator

open Scan (Cursor)

/--
Whether a line is read through: without a mismatch, with all of its literals closed,
that of an earlier line included, and to an end that is no line comment.
-/
structure ReadsThrough
    (validator : Validator)
    (line : List Char) :
    Prop where
  matched : (validator.validate line).1 ≠ .mismatch
  /-- No literal is open behind the line. -/
  outside : (validator.validate line).2.continuesLiteral = false
  /-- The scan of the line meets no literal that is not closed. -/
  closed : ∀ start cursor, Moves (.between validator) (.inside validator line start) →
    Scan.Comes validator.policy start cursor →
      ¬ cursor.MeetsUnclosed validator.policy
  /-- The scan of the line meets no line comment. -/
  bare : ∀ start cursor, Moves (.between validator) (.inside validator line start) →
    Scan.Comes validator.policy start cursor → ¬ cursor.MeetsLineComment

/-- What is left of a line behind the literal that it closes. -/
def behindLiteral
    (validator : Validator)
    (line : List Char) :
    List Char :=
  match validator.stack.top? with
  | some (.literal (.quote quote)) => (LiteralContent.read quote line).rest
  | _ => line

/-- The scan of a line begins with what is left of it behind an open literal. -/
theorem Moves.text_eq_behindLiteral
    {validator : Validator}
    {line : List Char}
    {start : Cursor}
    (begins : Moves (.between validator) (.inside validator line start)) :
    start.text = validator.behindLiteral line := by
  cases begins with
  | begins outside =>
      unfold behindLiteral
      split
      · rename_i quote literal
        exact (top?_ne_literal outside _ literal).elim
      · rfl
  | resumes literal closed =>
      simp only [behindLiteral, literal, closed]
      rfl

/--
A line is read through if no quote and no two slashes stand behind the literal that it
closes.
-/
theorem readsThrough_of_plain
    {validator : Validator}
    {line : List Char}
    (matched : (validator.validate line).1 ≠ .mismatch)
    (outside : (validator.validate line).2.continuesLiteral = false)
    (quoteless : ∀ quote : Quote,
      quote.character ∉ validator.behindLiteral line)
    (slashless : ¬ ['/', '/'] <:+: validator.behindLiteral line) :
    validator.ReadsThrough line where
  matched := matched
  outside := outside
  closed := by
    intro start cursor begins comes met
    rcases met.mem_text with ⟨quote, member⟩
    apply quoteless quote
    rw [← begins.text_eq_behindLiteral]
    exact comes.suffix.mem member
  bare := by
    intro start cursor begins comes met
    apply slashless
    rw [← begins.text_eq_behindLiteral]
    exact met.infix_text.trans comes.suffix.isInfix

/-- What is scanned behind a line that is read through is scanned behind a space as well. -/
theorem ReadsThrough.ofLine_append_space
    {validator : Validator}
    {first : List Char}
    (through : validator.ReadsThrough first)
    (shaped : validator.stack.Shaped)
    (second : List Char) :
    Scan.ofLine validator.policy validator.stack (first ++ ' ' :: second) =
      Scan.ofLine validator.policy (validator.validate first).2.stack second := by
  have matched := mismatched_of_verdictOf through.matched
  rw [ofLine_of_outside (top?_ne_literal through.outside), stack_validate]
  rcases outside_or_eq_ofLiteral shaped with outside | ⟨quote, opened, same⟩
  · have begins : Moves (.between validator)
        (.inside validator first (beginning validator.stack first)) :=
      .begins (continuesLiteral_eq_false outside)
    rw [ofLine_of_outside outside] at matched ⊢
    rw [ofLine_of_outside outside]
    exact (sound_beginning shaped outside first).run_appendSpace
      (fun later => through.closed _ later begins)
      (fun later => through.bare _ later begins) matched second
  · have literal : validator.stack.top? = some (.literal (.quote quote)) := by
      rw [same]
      rfl
    have below : validator.stack.tail = .ofCode opened := by
      rw [same]
      rfl
    have outside := through.outside
    rw [same, Scan.ofLine_ofLiteral] at matched ⊢
    rw [Scan.ofLine_ofLiteral]
    generalize found : LiteralContent.read quote first = content at matched
    rcases content with ⟨covered, _ | escaping, rest⟩
    · have resumed := Moves.resumes literal found
      rw [below, beginning_ofCode] at resumed
      have more := LiteralContent.read_append_of_closed (by rw [found])
        (rest ++ ' ' :: second)
      rw [found, ← List.append_assoc, LiteralContent.append_of_read found] at more
      rw [more]
      exact (Scan.Cursor.Sound.code opened false rest).run_appendSpace
        (fun later => through.closed _ later resumed)
        (fun later => through.bare _ later resumed) matched second
    · have stays : (validator.validate first).2.continuesLiteral = true := by
        rw [continuesLiteral, stack_validate, same, Scan.ofLine_ofLiteral, found]
        rfl
      rw [stays] at outside
      cases outside

/--
A line that is read through and another one behind it come to the same as both in one
line with a space between them.
-/
theorem validate_append_space
    {validator : Validator}
    (reachable : validator.Reachable)
    {first : List Char}
    (through : validator.ReadsThrough first)
    (second : List Char) :
    ((validator.validate first).2.validate second).1 =
        (validator.validate (first ++ ' ' :: second)).1 ∧
      ((validator.validate first).2.validate second).2.stack =
        (validator.validate (first ++ ' ' :: second)).2.stack := by
  have same := through.ofLine_append_space reachable.shaped second
  constructor
  · exact congrArg verdictOf same.symm
  · exact congrArg Scan.stack same.symm

/-- A validator inside a literal above a bracket. -/
def quotedOpening : Validator :=
  ((new ⟨true, true⟩).validate "f( \"a\\".toList).2

/-- Two halves of a comment's marker on both sides of a line break open no comment. -/
theorem validate_append_space_halfMarker :
    quotedOpening.Reachable ∧
      quotedOpening.ReadsThrough "b\" [ x /".toList ∧
      ((quotedOpening.validate "b\" [ x /".toList).2.validate
          "* y ] ) 'c'".toList).1 =
        (quotedOpening.validate "b\" [ x / * y ] ) 'c'".toList).1 := by
  have reachable : quotedOpening.Reachable := .validate _ (.new _)
  have through : quotedOpening.ReadsThrough "b\" [ x /".toList := by
    apply readsThrough_of_plain
    · decide +kernel
    · decide +kernel
    · intro quote
      cases quote <;> decide +kernel
    · decide +kernel
  exact ⟨reachable, through,
    (validate_append_space reachable through "* y ] ) 'c'".toList).1⟩

end Validator

end Delimit
