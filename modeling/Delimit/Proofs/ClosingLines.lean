import Delimit.Proofs.BracketVerdicts
import Delimit.Proofs.CheckedOperations

/-!
# Whatever is open can be closed

The stack alone tells how to close everything that is open.  The mark that ends the
literal or the comment comes first, on a line of its own; what was counted inside the
comment leaves together with it.  The partners of the brackets that are left come next,
from the topmost bracket down, on one line.

No validator that can be reached reports a mismatch on these lines, and each of them but
the last leaves something open.  So there is no input from which a session cannot be
brought to an end of its unit.
-/

namespace Delimit

namespace Entry

/-- The character that closes an open bracket. -/
def closing? : Entry → Option Char
  | bracket (.opening shape) => some shape.closing
  | _ => none

@[simp]
theorem filterMap_closing?_brackets
    (opened : List Bracket) :
    (brackets opened).filterMap closing? = opened.map Bracket.closing := by
  induction opened with
  | nil => rfl
  | cons bracket opened induction =>
      rw [brackets_cons, List.filterMap_cons, induction]
      rfl

end Entry

namespace Stack

/-- The mark that ends the literal or the comment that is open. -/
def endMark?
    (stack : Stack) :
    Option (List Char) :=
  match stack.top? with
  | some (.literal (.quote quote)) => some [quote.character]
  | _ => if stack.inComment then some ['*', '/'] else none

/-- The entries, topmost first, that the literal or the comment leaves when it ends. -/
def leftOpen
    (stack : Stack) :
    List Entry :=
  match stack.top? with
  | some (.literal _) => stack.tail.topFirst
  | _ => (below? .comment stack.topFirst).getD stack.topFirst

/-- The line of the partners of open brackets, if there are any. -/
def closersOf
    (entries : List Entry) :
    List (List Char) :=
  let partners := entries.filterMap Entry.closing?
  if partners.isEmpty then [] else [partners]

/-- The lines that close everything that is open on a stack. -/
def closingLines
    (stack : Stack) :
    List (List Char) :=
  stack.endMark?.toList ++ closersOf stack.leftOpen

theorem below?_eq_none
    {target : Entry}
    {entries : List Entry}
    (absent : target ∉ entries) :
    below? target entries = none := by
  induction entries with
  | nil => rfl
  | cons entry entries induction =>
      simp only [List.mem_cons, not_or] at absent
      rw [below?, if_neg (Ne.symm absent.1), induction absent.2]

theorem closersOf_brackets
    {opened : List Bracket}
    (some : opened ≠ []) :
    closersOf (Entry.brackets opened) = [opened.map Bracket.closing] := by
  simp [closersOf, some]

/-- Where no literal is on top, what is left open is what lies below a comment. -/
theorem closingLines_of_outside
    {stack : Stack}
    (outside : ∀ kind, stack.top? ≠ some (.literal kind)) :
    stack.closingLines =
      (if stack.inComment then [['*', '/']] else []) ++
        closersOf ((below? .comment stack.topFirst).getD stack.topFirst) := by
  have mark : stack.endMark? =
      if stack.inComment then some ['*', '/'] else none := by
    unfold endMark?
    split
    · rename_i quote literal
      exact (outside _ literal).elim
    · rfl
  have left : stack.leftOpen =
      (below? .comment stack.topFirst).getD stack.topFirst := by
    unfold leftOpen
    split
    · rename_i kind literal
      exact (outside kind literal).elim
    · rfl
  rw [closingLines, mark, left]
  cases stack.inComment <;> rfl

@[simp]
theorem closingLines_ofCode
    (opened : List Bracket) :
    (ofCode opened).closingLines = closersOf (Entry.brackets opened) := by
  have outside : ∀ kind, (ofCode opened).top? ≠ some (.literal kind) := by
    intro kind literal
    cases opened <;> cases literal
  rw [closingLines_of_outside outside, inComment_ofCode, ofCode,
    below?_eq_none (Entry.comment_notMem_brackets opened)]
  rfl

@[simp]
theorem closingLines_ofComment
    (inner opened : List Bracket) :
    (ofComment inner opened).closingLines =
      ['*', '/'] :: closersOf (Entry.brackets opened) := by
  have outside : ∀ kind, (ofComment inner opened).top? ≠ some (.literal kind) := by
    intro kind literal
    cases inner <;> cases literal
  rw [closingLines_of_outside outside, inComment_ofComment, ofComment,
    below?_append_cons (Entry.comment_notMem_brackets inner)]
  rfl

@[simp]
theorem closingLines_ofLiteral
    (quote : Quote)
    (opened : List Bracket) :
    (ofLiteral quote opened).closingLines =
      [quote.character] :: closersOf (Entry.brackets opened) := rfl

end Stack

namespace BracketMark

theorem wordOf_map_closing
    (opened : List Bracket) :
    wordOf (opened.map Bracket.closing) = opened.map .closes := by
  induction opened with
  | nil => rfl
  | cons bracket opened induction =>
      rw [List.map_cons, List.map_cons, ← induction]
      cases bracket <;> rfl

/-- The partners of open brackets leave nothing open. -/
theorem read_map_closes
    (opened : List Bracket) :
    read opened (opened.map .closes) = some [] := by
  induction opened with
  | nil => rfl
  | cons bracket opened induction =>
      rw [List.map_cons, read, if_pos List.head?_cons]
      exact induction

end BracketMark

theorem isBare_map_closing
    (opened : List Bracket) :
    IsBare (opened.map Bracket.closing) := by
  intro character member
  rcases List.mem_map.mp member with ⟨bracket, -, rfl⟩
  cases bracket <;> decide

namespace Scan

variable {policy : Policy}

/-- A quote on a line of its own ends the literal that is open. -/
theorem ofLine_quote
    (quote : Quote)
    (opened : List Bracket) :
    ofLine policy (Stack.ofLiteral quote opened) [quote.character] =
      finished (Stack.ofCode opened) := by
  have closed : LiteralContent.read quote [quote.character] =
      ⟨[quote.character], .closed, []⟩ := by
    rw [LiteralContent.read_plain quote.character_ne_backslash, if_pos rfl]
  rw [ofLine_ofLiteral, closed]
  exact (Halts.lineEnd (.blankEnd rfl)).run_eq

/-- A closing marker on a line of its own ends the comment that is open. -/
theorem ofLine_closingMarker
    (inner opened : List Bracket) :
    ofLine policy (Stack.ofComment inner opened) ['*', '/'] =
      finished (Stack.ofCode opened) := by
  have asterisk : Lexeme.Form ['*', '/'] ⟨[], .asterisk, ['*'], ['/']⟩ :=
    Lexeme.form_symbol rfl (by decide)
  have slash : Lexeme.Form ['/'] ⟨[], .slash, ['/'], []⟩ :=
    Lexeme.form_symbol rfl (by decide)
  have half : Step policy ⟨true, false, Stack.ofComment inner opened, ['*', '/']⟩ ['*']
      ⟨true, true, Stack.ofComment inner opened, ['/']⟩ := by
    cases parity : policy.commentBracketParity with
    | false => exact .passes asterisk (by decide) rfl parity
    | true => exact .skips asterisk rfl rfl parity
  have whole : Step policy ⟨true, true, Stack.ofComment inner opened, ['/']⟩ ['/']
      ⟨false, false, Stack.ofCode opened, []⟩ :=
    .closes slash (Stack.unwind_comment inner opened)
  rw [ofLine_ofComment, half.run_eq, whole.run_eq]
  exact (Halts.lineEnd (.blankEnd rfl)).run_eq

end Scan

namespace Validator

/--
Lines that close everything that is open: something stays open behind each of them but
the last, and nothing behind that one.
-/
structure ClosedBy
    (validator : Validator)
    (lines : List (List Char)) :
    Prop where
  verdicts : validator.verdicts lines =
    List.replicate (lines.length - 1) .incomplete ++ [.complete]
  stack : (validator.after lines).stack = .empty

variable {validator : Validator} {opened : List Bracket}

theorem ClosedBy.cons
    {line : List Char}
    {lines : List (List Char)}
    (incomplete : (validator.validate line).1 = .incomplete)
    (closed : (validator.validate line).2.ClosedBy lines) :
    validator.ClosedBy (line :: lines) where
  verdicts := by
    cases lines with
    | nil => cases closed.verdicts
    | cons next lines =>
        rw [Validator.verdicts, incomplete, closed.verdicts]
        rfl
  stack := closed.stack

/-- Open brackets are closed by their partners. -/
theorem closedBy_partners
    (stack : validator.stack = .ofCode opened) :
    validator.ClosedBy [opened.map Bracket.closing] := by
  have decides := decides_validate stack (isBare_map_closing opened)
  rw [BracketMark.wordOf_map_closing, BracketMark.read_map_closes] at decides
  generalize answered : validator.validate (opened.map Bracket.closing) = answer
    at decides
  rcases answer with ⟨verdict, next⟩
  cases decides with
  | complete empty =>
      refine ⟨?_, ?_⟩
      · rw [verdicts, answered]
        rfl
      · rw [after, answered]
        exact empty
  | incomplete nonempty => exact (nonempty rfl).elim

/-- What ends the literal or the comment comes before the partners of the brackets. -/
theorem closedBy_mark
    {mark : List Char}
    (ends : Scan.ofLine validator.policy validator.stack mark =
      .finished (.ofCode opened)) :
    validator.ClosedBy (mark :: Stack.closersOf (Entry.brackets opened)) := by
  have answer : (validator.validate mark).1 = verdictOf (.finished (.ofCode opened)) :=
    congrArg verdictOf ends
  have stack : (validator.validate mark).2.stack = .ofCode opened :=
    congrArg Scan.stack ends
  cases opened with
  | nil => exact ⟨congrArg ([·]) answer, stack⟩
  | cons bracket opened =>
      rw [Stack.closersOf_brackets (List.cons_ne_nil _ _)]
      exact .cons answer (closedBy_partners stack)

/--
Whatever is done to a new validator, the lines that its stack tells close everything
that it has open.
-/
theorem closedBy_closingLines
    (policy : Policy)
    (operations : List Operation) :
    let validator := Operation.applyAll (.new policy) operations
    validator.stack.entries ≠ [] →
      validator.ClosedBy validator.stack.closingLines := by
  intro validator some
  have shaped : validator.stack.Shaped :=
    (Operation.reachable_applyAll (.new policy) operations).shaped
  generalize same : validator.stack = stack at shaped some
  cases shaped with
  | code opened =>
      have nonempty : opened ≠ [] := by
        rintro rfl
        exact some rfl
      rw [Stack.closingLines_ofCode, Stack.closersOf_brackets nonempty]
      exact closedBy_partners same
  | literal quote opened =>
      rw [Stack.closingLines_ofLiteral]
      exact closedBy_mark (by rw [same]; exact Scan.ofLine_quote quote opened)
  | comment inner opened =>
      rw [Stack.closingLines_ofComment]
      exact closedBy_mark (by rw [same]; exact Scan.ofLine_closingMarker inner opened)

/--
A mismatch that is not reset, a comment in which brackets are counted, and a policy
that counts none of them any more.
-/
def tangledOperations : List Operation :=
  [ .validate "f(a[1)".toList, .validate "\x7b \"b\" /* ( '".toList,
    .validate "[ ]] [".toList, .assignCommentBracketParity false ]

/-- A closing marker and three partners close what the tangled operations leave open. -/
theorem closedBy_tangledOperations :
    let validator := Operation.applyAll (.new ⟨true, true⟩) tangledOperations
    validator.stack.entries.length = 6 ∧
      validator.stack.closingLines = ["*/".toList, "\x7d])".toList] ∧
      validator.ClosedBy ["*/".toList, "\x7d])".toList] := by
  intro validator
  have lines : validator.stack.closingLines = ["*/".toList, "\x7d])".toList] := by
    decide +kernel
  have six : validator.stack.entries.length = 6 := by decide +kernel
  have some : validator.stack.entries ≠ [] := by
    intro nothing
    rw [nothing] at six
    cases six
  have closed := closedBy_closingLines ⟨true, true⟩ tangledOperations some
  rw [lines] at closed
  exact ⟨six, lines, closed⟩

end Validator

end Delimit
