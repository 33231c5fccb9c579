import Delimit.Proofs.ValidatorRun
import Mathlib.Logic.Relation

/-!
# The moves of a validator

What a validator does with a line can be followed token by token.  A point is a
validator between two lines, or a cursor inside the line that a validator has
taken up.  A move takes up a line, makes one step of its scan, ends it, or changes
the policy between two lines.

Moves keep the stack in shape.  Inside a line they keep what its scan comes to, so
a validator takes up a line and arrives, move by move, where `validate` leaves it,
and nowhere else.
-/

namespace Delimit

namespace Validator

open Scan (Cursor)

/-- Where a validator stands. -/
inductive Point where
  | between (validator : Validator)
  /-- The scan of a line that the validator has taken up. -/
  | inside (validator : Validator) (line : List Char) (cursor : Cursor)

/-- The delimiters that are open at a point. -/
def Point.stack : Point → Stack
  | between validator => validator.stack
  | inside _ _ cursor => cursor.stack

/-- The cursor at which a scan outside literals begins. -/
def beginning
    (stack : Stack)
    (text : List Char) :
    Cursor :=
  ⟨stack.inComment, false, stack, text⟩

/-- Where no literal is open, the scan of a line is the scan from its beginning. -/
theorem ofLine_of_outside
    {stack : Stack}
    (outside : ∀ kind, stack.top? ≠ some (.literal kind))
    (policy : Policy)
    (line : List Char) :
    Scan.ofLine policy stack line = (beginning stack line).run policy := by
  unfold Scan.ofLine
  split
  · rename_i quote literal
    exact (outside (.quote quote) literal).elim
  · rename_i kind _ literal
    exact (outside kind literal).elim
  · rfl

theorem continuesLiteral_eq_false
    {validator : Validator}
    (outside : ∀ kind, validator.stack.top? ≠ some (.literal kind)) :
    validator.continuesLiteral = false := by
  unfold continuesLiteral
  split
  · rename_i kind literal
    exact (outside kind literal).elim
  · rfl

theorem top?_ne_literal
    {validator : Validator}
    (outside : validator.continuesLiteral = false)
    (kind : TokenKind) :
    validator.stack.top? ≠ some (.literal kind) := by
  intro literal
  unfold continuesLiteral at outside
  rw [literal] at outside
  cases outside

/-- The validator when the scan of a line has ended. -/
def absorb
    (validator : Validator)
    (line : List Char)
    (scan : Scan) :
    Validator :=
  { validator with
    input := joinLine validator.continuesLiteral validator.input line
    stack := scan.stack }

theorem absorb_ofLine
    (validator : Validator)
    (line : List Char) :
    validator.absorb line
        (Scan.ofLine validator.policy validator.stack line) =
      (validator.validate line).2 := rfl

/-- One move from point to point. -/
inductive Moves : Point → Point → Prop where
  /-- A line is taken up outside literals. -/
  | begins {validator : Validator} {line : List Char}
      (outside : validator.continuesLiteral = false) :
      Moves (.between validator)
        (.inside validator line (beginning validator.stack line))
  /-- A line is taken up that closes the open literal. -/
  | resumes {validator : Validator} {line covered rest : List Char}
      {quote : Quote}
      (literal : validator.stack.top? = some (.literal (.quote quote)))
      (closed : LiteralContent.read quote line = ⟨covered, .closed, rest⟩) :
      Moves (.between validator)
        (.inside validator line (beginning validator.stack.tail rest))
  /-- A line is taken up that does not close the open literal. -/
  | continues {validator : Validator} {line : List Char} {quote : Quote}
      (literal : validator.stack.top? = some (.literal (.quote quote)))
      (unclosed : (LiteralContent.read quote line).ending.isClosed = false) :
      Moves (.between validator)
        (.between (validator.absorb line (Scan.finished validator.stack)))
  /-- The scan makes a step. -/
  | steps {validator : Validator} {line consumed : List Char}
      {cursor next : Cursor}
      (step : Scan.Step validator.policy cursor consumed next) :
      Moves (.inside validator line cursor) (.inside validator line next)
  /-- The scan ends. -/
  | ends {validator : Validator} {line : List Char} {cursor : Cursor}
      {scan : Scan}
      (halts : Scan.Halts validator.policy cursor scan) :
      Moves (.inside validator line cursor)
        (.between (validator.absorb line scan))
  /-- The policy is changed. -/
  | assigns {validator : Validator} (policy : Policy) :
      Moves (.between validator) (.between { validator with policy })

/-- The points that can be reached from another one. -/
def Reaches : Point → Point → Prop :=
  Relation.ReflTransGen Moves

/-- Points whose stack has a sound shape and whose scan is that of the line. -/
inductive Point.Sound : Point → Prop where
  | between {validator : Validator}
      (shaped : validator.stack.Shaped) :
      Sound (.between validator)
  | inside {validator : Validator} {line : List Char} {cursor : Cursor}
      (sound : cursor.Sound)
      (same : cursor.run validator.policy =
        Scan.ofLine validator.policy validator.stack line) :
      Sound (.inside validator line cursor)

@[simp]
theorem beginning_ofCode
    (opened : List Bracket)
    (text : List Char) :
    beginning (.ofCode opened) text = ⟨false, false, .ofCode opened, text⟩ := by
  simp [beginning]

@[simp]
theorem beginning_ofComment
    (inner opened : List Bracket)
    (text : List Char) :
    beginning (.ofComment inner opened) text =
      ⟨true, false, .ofComment inner opened, text⟩ := by
  simp [beginning]

/-- A stack of sound shape has no literal on top, or one above brackets. -/
theorem outside_or_eq_ofLiteral
    {stack : Stack}
    (shaped : stack.Shaped) :
    (∀ kind, stack.top? ≠ some (.literal kind)) ∨
      ∃ quote opened, stack = .ofLiteral quote opened := by
  cases shaped with
  | code opened =>
      left
      intro kind literal
      cases opened <;> cases literal
  | comment inner opened =>
      left
      intro kind literal
      cases inner <;> cases literal
  | literal quote opened => exact .inr ⟨quote, opened, rfl⟩

/-- The beginning of a line that is taken up outside literals is sound. -/
theorem sound_beginning
    {stack : Stack}
    (shaped : stack.Shaped)
    (outside : ∀ kind, stack.top? ≠ some (.literal kind))
    (text : List Char) :
    (beginning stack text).Sound := by
  cases shaped with
  | code opened =>
      rw [beginning_ofCode]
      exact .code opened false text
  | comment inner opened =>
      rw [beginning_ofComment]
      exact .comment inner opened false text
  | literal quote opened => exact (outside _ rfl).elim

/-- A line that is taken up outside literals is scanned from its beginning. -/
theorem sound_begins
    {validator : Validator}
    (shaped : validator.stack.Shaped)
    (outside : validator.continuesLiteral = false)
    (line : List Char) :
    Point.Sound (.inside validator line (beginning validator.stack line)) := by
  have bare := top?_ne_literal outside
  apply Point.Sound.inside
  · exact sound_beginning shaped bare line
  · exact (ofLine_of_outside bare validator.policy line).symm

/-- The stack of an open literal is known from its top. -/
theorem eq_ofLiteral_of_top?
    {stack : Stack}
    {quote : Quote}
    (shaped : stack.Shaped)
    (literal : stack.top? = some (.literal (.quote quote))) :
    ∃ opened, stack = .ofLiteral quote opened := by
  cases shaped with
  | code opened => cases opened <;> cases literal
  | comment inner opened => cases inner <;> cases literal
  | literal quote opened =>
      cases literal
      exact ⟨opened, rfl⟩

/-- Behind the literal that it closes, a line is scanned as code. -/
theorem sound_resumes
    {validator : Validator}
    {line covered rest : List Char}
    {quote : Quote}
    (shaped : validator.stack.Shaped)
    (literal : validator.stack.top? = some (.literal (.quote quote)))
    (closed : LiteralContent.read quote line = ⟨covered, .closed, rest⟩) :
    Point.Sound
      (.inside validator line (beginning validator.stack.tail rest)) := by
  rcases eq_ofLiteral_of_top? shaped literal with ⟨opened, same⟩
  have below : validator.stack.tail = .ofCode opened := by
    rw [same]
    rfl
  rw [below, beginning_ofCode]
  refine .inside (.code opened false rest) ?_
  rw [same, Scan.ofLine_ofLiteral, closed]
  rfl

/-- Every move keeps a point sound. -/
theorem Moves.sound
    {point next : Point}
    (move : Moves point next)
    (sound : point.Sound) :
    next.Sound := by
  cases sound with
  | between shaped =>
      cases move with
      | begins outside => exact sound_begins shaped outside _
      | resumes literal closed => exact sound_resumes shaped literal closed
      | continues => exact .between shaped
      | assigns => exact .between shaped
  | inside sound same =>
      cases move with
      | steps step => exact .inside (step.sound sound) (step.run_eq ▸ same)
      | ends halts => exact .between (halts.sound sound).1

theorem Reaches.sound
    {point next : Point}
    (reaches : Reaches point next)
    (sound : point.Sound) :
    next.Sound := by
  induction reaches with
  | refl => exact sound
  | tail reaches move induction => exact move.sound induction

/-- Step by step, the scan of a line ends in what it comes to. -/
theorem reaches_absorb
    (validator : Validator)
    (line : List Char)
    (cursor : Cursor) :
    Reaches (.inside validator line cursor)
      (.between (validator.absorb line (cursor.run validator.policy))) := by
  induction cursor using Cursor.inductionOn validator.policy with
  | halt cursor scan halts =>
      rw [halts.run_eq]
      exact .single (.ends halts)
  | step cursor consumed next step induction =>
      rw [step.run_eq]
      exact .head (.steps step) induction

/-- A line that is taken up ends where `validate` leaves the validator. -/
theorem Point.Sound.reaches_validate
    {validator : Validator}
    {line : List Char}
    {cursor : Cursor}
    (sound : Point.Sound (.inside validator line cursor)) :
    Reaches (.inside validator line cursor)
      (.between (validator.validate line).2) := by
  cases sound with
  | inside sound same =>
      rw [← absorb_ofLine, ← same]
      exact reaches_absorb validator line cursor

/-- Moves lead from a validator to the validator that has scanned a line. -/
theorem reaches_validate
    {validator : Validator}
    (shaped : validator.stack.Shaped)
    (line : List Char) :
    Reaches (.between validator) (.between (validator.validate line).2) := by
  cases continues : validator.continuesLiteral with
  | false =>
      exact .head (.begins continues)
        (sound_begins shaped continues line).reaches_validate
  | true =>
      rcases (continuesLiteral_iff shaped).mp continues with
        ⟨quote, opened, same⟩
      have literal : validator.stack.top? = some (.literal (.quote quote)) := by
        rw [same]
        rfl
      generalize found : LiteralContent.read quote line = content
      rcases content with ⟨covered, _ | escaping, rest⟩
      · exact .head (.resumes literal found)
          (sound_resumes shaped literal found).reaches_validate
      · have stays : Scan.ofLine validator.policy validator.stack line =
            Scan.finished validator.stack := by
          rw [same, Scan.ofLine_ofLiteral, found]
          rfl
        rw [← absorb_ofLine, stays]
        exact .single (.continues literal (by rw [found]; rfl))

/-- The end of a line's scan is what `validate` makes of the line. -/
theorem Point.Sound.validate_of_halts
    {validator : Validator}
    {line : List Char}
    {cursor : Cursor}
    {scan : Scan}
    (sound : Point.Sound (.inside validator line cursor))
    (halts : Scan.Halts validator.policy cursor scan) :
    validator.validate line = (verdictOf scan, validator.absorb line scan) := by
  cases sound with
  | inside sound same =>
      rw [halts.run_eq] at same
      rw [same]
      rfl

end Validator

end Delimit
