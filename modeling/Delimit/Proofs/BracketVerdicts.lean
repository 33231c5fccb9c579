import Delimit.Proofs.BalancedWords
import Delimit.Proofs.ValidatorRun

/-!
# Verdicts on bare lines

A bare line has no slash and no quote, so no comment and no literal begins on it,
whatever else stands between its brackets.  A scan of bare lines reads the word of
their brackets, and the three verdicts decide that word: it is balanced, it can
still become balanced, or it cannot.
-/

namespace Delimit

namespace BracketMark

def ofCharacter? : Char → Option BracketMark
  | '(' => some (.opens .paren)
  | ')' => some (.closes .paren)
  | '[' => some (.opens .square)
  | ']' => some (.closes .square)
  | '{' => some (.opens .brace)
  | '}' => some (.closes .brace)
  | _ => none

/-- The word of the brackets of a text. -/
def wordOf
    (text : List Char) :
    List BracketMark :=
  text.filterMap ofCharacter?

/-- The bracket that a token of a kind is. -/
def ofKind? : TokenKind → Option BracketMark
  | .opening bracket => some (.opens bracket)
  | .closing bracket => some (.closes bracket)
  | _ => none

theorem ofCharacter?_eq
    (character : Char) :
    ofCharacter? character = (Lexeme.symbol? character).bind ofKind? := by
  unfold Lexeme.symbol?
  split
  all_goals
    first
    | rfl
    | unfold ofCharacter?; split <;> first | rfl | contradiction

@[simp]
theorem wordOf_append
    (front back : List Char) :
    wordOf (front ++ back) = wordOf front ++ wordOf back := by
  simp [wordOf]

theorem wordOf_of_plain
    {text : List Char}
    (plain : ∀ character ∈ text, Lexeme.symbol? character = none) :
    wordOf text = [] := by
  apply List.filterMap_eq_nil_iff.mpr
  intro character member
  rw [ofCharacter?_eq, plain character member]
  rfl

/-- The word of a text begins with its first token, if that is a bracket. -/
theorem wordOf_of_form
    {text gap value rest : List Char}
    {kind : TokenKind}
    (form : Lexeme.Form text ⟨gap, kind, value, rest⟩)
    (inner : kind ≠ .endOfLine) :
    wordOf text = (ofKind? kind).toList ++ wordOf rest := by
  have whole := form.text_eq
  dsimp only at whole
  rcases form.symbol_or_plain inner with
    ⟨character, rfl, symbol, -⟩ | ⟨wordy, plain⟩
  · have blank := wordOf_of_plain form.plain_gap
    have token : wordOf [character] = (ofKind? kind).toList := by
      simp [wordOf, List.filterMap_cons, ofCharacter?_eq, symbol]
      cases ofKind? kind <;> rfl
    rw [whole, wordOf_append, wordOf_append, blank, token, List.nil_append]
  · have nothing : ofKind? kind = none := by
      rcases wordy with rfl | rfl <;> rfl
    rw [whole, ← List.append_assoc, wordOf_append, wordOf_of_plain plain, nothing]
    rfl

end BracketMark

/-- Whether a text has neither a slash nor a quote. -/
def IsBare
    (text : List Char) :
    Prop :=
  ∀ character ∈ text, character ≠ '/' ∧ character ≠ '"' ∧ character ≠ '\''

instance (text : List Char) : Decidable (IsBare text) :=
  List.decidableBAll (fun character =>
    character ≠ '/' ∧ character ≠ '"' ∧ character ≠ '\'') text

theorem IsBare.of_suffix
    {text rest : List Char}
    (bare : IsBare text)
    (suffix : rest <:+ text) :
    IsBare rest := by
  intro character member
  exact bare character (suffix.mem member)

namespace Scan

open BracketMark (wordOf)

variable {policy : Policy}

/-- Scans that come to what reading a word does. -/
inductive Follows : Option (List Bracket) → Scan → Prop where
  /-- The word was read to its end. -/
  | finished (opened : List Bracket) :
      Follows (some opened) (.finished (.ofCode opened))
  /-- A bracket of the word did not match. -/
  | abandoned (stack : Stack) :
      Follows none (.abandoned stack)

/-- A character that is a token of its own stands in the text. -/
theorem mem_of_form
    {text gap value rest : List Char}
    {kind : TokenKind}
    {character : Char}
    (form : Lexeme.Form text ⟨gap, kind, value, rest⟩)
    (symbol : Lexeme.symbol? character = some kind) :
    character ∈ text := by
  rcases form.value_eq symbol with ⟨rfl, -⟩
  rw [form.text_eq]
  simp

theorem top?_ofCode_iff
    {opened : List Bracket}
    {bracket : Bracket} :
    (Stack.ofCode opened).top? = some (.bracket (.opening bracket)) ↔
      opened.head? = some bracket := by
  cases opened with
  | nil => simp [Stack.top?, Stack.ofCode]
  | cons top opened => simp [Stack.top?, Stack.ofCode]

/-- Where a scan of bare text ends, reading the word of its brackets ends. -/
theorem Halts.follows
    {text : List Char}
    {opened : List Bracket}
    {scan : Scan}
    (halts : Halts policy ⟨false, false, .ofCode opened, text⟩ scan)
    (bare : IsBare text) :
    Follows (BracketMark.read opened (wordOf text)) scan := by
  cases halts with
  | lineEnd form =>
      rcases form.endOfLine_inv with ⟨blank, rfl⟩ | ⟨comment, rfl, -⟩
      · rw [blank, BracketMark.wordOf_of_plain form.plain_gap]
        exact .finished opened
      · exact ((bare '/' (by simp)).1 rfl).elim
  | @mismatch _ _ bracket _ _ _ _ form single =>
      rw [BracketMark.wordOf_of_form form (by simp)]
      have different := mt top?_ofCode_iff.mpr single
      change Follows (BracketMark.read opened (.closes bracket :: wordOf _)) _
      rw [BracketMark.read, if_neg different]
      exact .abandoned _

/-- A scan of bare text reads the word of its brackets. -/
theorem follows_run
    {text : List Char}
    (bare : IsBare text)
    (opened : List Bracket) :
    Follows (BracketMark.read opened (wordOf text))
      (Cursor.run policy ⟨false, false, .ofCode opened, text⟩) := by
  generalize whole : (⟨false, false, .ofCode opened, text⟩ : Cursor) = cursor
  induction cursor using Cursor.inductionOn policy generalizing text opened with
  | halt cursor scan halts =>
      subst whole
      rw [halts.run_eq]
      exact halts.follows bare
  | step cursor consumed next step induction =>
      subst whole
      rw [step.run_eq]
      have later : IsBare next.text :=
        bare.of_suffix ⟨consumed, step.text_eq.symm⟩
      cases step with
      | pushes form =>
          rw [BracketMark.wordOf_of_form form (by simp)]
          exact induction later (_ :: opened) rfl
      | @pops _ _ _ bracket _ _ _ _ form counted partner =>
          rw [BracketMark.wordOf_of_form form (by simp)]
          have top := top?_ofCode_iff.mp partner
          change Follows (BracketMark.read opened (.closes bracket :: wordOf _)) _
          rw [BracketMark.read, if_pos top]
          rcases List.head?_eq_some_iff.mp top with ⟨below, rfl⟩
          exact induction later below rfl
      | @reads _ _ _ quote _ _ _ _ _ _ _ form =>
          have quoted := bare _ (mem_of_form form (Lexeme.symbol?_quote quote))
          cases quote with
          | double => exact (quoted.2.1 rfl).elim
          | single => exact (quoted.2.2 rfl).elim
      | @skips _ _ _ kind _ _ _ _ form inert =>
          have unslashed : (kind == markerStart false) = false := by
            rw [beq_eq_false_iff_ne]
            rintro rfl
            have slash : Lexeme.symbol? '/' = some .slash := rfl
            exact (bare _ (mem_of_form form slash)).1 rfl
          have inner : kind ≠ .endOfLine := by
            rintro rfl
            cases inert
          have nothing : BracketMark.ofKind? kind = none := by
            cases kind <;> first | rfl | cases inert
          rw [BracketMark.wordOf_of_form form inner, nothing]
          exact induction later opened (by rw [unslashed])

end Scan

namespace Validator

open BracketMark (wordOf Balanced Viable Unmatched)

/-- The lines that are fed to a validator up to the first mismatch. -/
def untilMismatch
    (validator : Validator) :
    List (List Char) → List (List Char)
  | [] => []
  | line :: lines =>
      if (validator.validate line).1 = .mismatch then
        [line]
      else
        line :: (validator.validate line).2.untilMismatch lines

/-- The last verdict and the stack where reading the word of all lines comes to this. -/
inductive Decides : Option (List Bracket) → Option Verdict × Validator → Prop where
  /-- Nothing is left open. -/
  | complete {validator : Validator}
      (stack : validator.stack = .ofCode []) :
      Decides (some []) (some .complete, validator)
  /-- Some brackets are left open. -/
  | incomplete {validator : Validator} {opened : List Bracket}
      (nonempty : opened ≠ [])
      (stack : validator.stack = .ofCode opened) :
      Decides (some opened) (some .incomplete, validator)
  /-- A closing bracket did not match. -/
  | mismatch (validator : Validator) :
      Decides none (some .mismatch, validator)

variable {validator : Validator} {opened : List Bracket}

/-- The verdict on a bare line is what reading its word comes to. -/
theorem decides_validate
    (stack : validator.stack = .ofCode opened)
    {line : List Char}
    (bare : IsBare line) :
    Decides (BracketMark.read opened (wordOf line))
      (some (validator.validate line).1, (validator.validate line).2) := by
  have follows := @Scan.follows_run validator.policy line bare opened
  rw [← Scan.ofLine_ofCode, ← stack] at follows
  unfold validate
  dsimp only
  generalize Scan.ofLine validator.policy validator.stack line = scan at follows
  generalize BracketMark.read opened (wordOf line) = result at follows
  cases follows with
  | finished later =>
      cases later with
      | nil => exact .complete rfl
      | cons bracket later => exact .incomplete (List.cons_ne_nil _ _) rfl
  | abandoned stack => exact .mismatch _

theorem Decides.exists_of_ne
    {result : Option (List Bracket)}
    {verdict : Verdict}
    (decides : Decides result (some verdict, validator))
    (matched : verdict ≠ .mismatch) :
    ∃ later, result = some later ∧ validator.stack = .ofCode later := by
  cases decides with
  | complete stack => exact ⟨[], rfl, stack⟩
  | incomplete nonempty stack => exact ⟨_, rfl, stack⟩
  | mismatch => exact (matched rfl).elim

/-- The last verdict on some lines is the last one on more lines that end with these. -/
theorem Decides.cons
    {result : Option (List Bracket)}
    {line : List Char}
    {lines : List (List Char)}
    (decides : Decides result ((validator.validate line).2.validateAll lines)) :
    Decides result (validator.validateAll (line :: lines)) := by
  rw [validateAll]
  dsimp only
  generalize (validator.validate line).2.validateAll lines = later at decides
  cases decides with
  | complete stack => exact .complete stack
  | incomplete nonempty stack => exact .incomplete nonempty stack
  | mismatch => exact .mismatch _

/-- The last verdict on bare lines is what reading the word of all of them comes to. -/
theorem decides_untilMismatch
    (stack : validator.stack = .ofCode opened)
    {lines : List (List Char)}
    (nonempty : lines ≠ [])
    (bare : ∀ line ∈ lines, IsBare line) :
    Decides
      (BracketMark.read opened (wordOf (validator.untilMismatch lines).flatten))
      (validator.validateAll (validator.untilMismatch lines)) := by
  induction lines generalizing validator opened with
  | nil => exact (nonempty rfl).elim
  | cons line lines induction =>
      have here := decides_validate stack (bare line (by simp))
      have single : Decides (BracketMark.read opened (wordOf [line].flatten))
          (validator.validateAll [line]) := by
        simpa [validateAll] using here
      rw [untilMismatch]
      split
      · exact single
      · rename_i matched
        by_cases last : lines = []
        · subst last
          exact single
        · rcases here.exists_of_ne matched with ⟨later, reads, stack⟩
          have rest := induction stack last fun other member =>
            bare other (List.mem_cons_of_mem line member)
          apply Decides.cons
          rw [List.flatten_cons, BracketMark.wordOf_append,
            BracketMark.read_append, reads]
          exact rest

/--
Where nothing but brackets counts, the verdicts decide the language of balanced words:
on lines that are fed to a new validator up to the first mismatch, the last verdict
says whether the word of their brackets is balanced, is none but begins one, or begins
none.  Without a mismatch, the stack holds the brackets that have no partner.
-/
theorem verdict_untilMismatch
    (policy : Policy)
    {lines : List (List Char)}
    (nonempty : lines ≠ [])
    (bare : ∀ line ∈ lines, IsBare line) :
    let fed := (new policy).untilMismatch lines
    let word := wordOf fed.flatten
    let last := ((new policy).validateAll fed).1
    (last = some .complete ↔ Balanced word) ∧
      (last = some .incomplete ↔ ¬ Balanced word ∧ Viable word) ∧
      (last = some .mismatch ↔ ¬ Viable word) ∧
      (last ≠ some .mismatch →
        ∃ opened, (∀ other, Unmatched word other ↔ other = opened) ∧
          ((new policy).validateAll fed).2.stack.entries =
            opened.map fun bracket => .bracket (.opening bracket)) := by
  intro fed word last
  have empty : (new policy).stack = .ofCode [] := rfl
  have decides : Decides (BracketMark.read [] word) ((new policy).validateAll fed) :=
    decides_untilMismatch empty nonempty bare
  subst last
  simp only [BracketMark.balanced_iff_read, BracketMark.viable_iff_read,
    BracketMark.unmatched_iff_read]
  generalize BracketMark.read [] word = result at decides ⊢
  generalize (new policy).validateAll fed = outcome at decides ⊢
  cases decides with
  | complete stack =>
      refine ⟨by simp, by simp, by simp, fun _ => ⟨[], ?_, ?_⟩⟩
      · intro other
        rw [Option.some_inj, eq_comm, List.reverse_eq_nil_iff]
      · rw [stack]
        rfl
  | @incomplete validator opened nonempty stack =>
      refine ⟨by simpa using nonempty, by simpa using nonempty, by simp,
        fun _ => ⟨opened.reverse, ?_, ?_⟩⟩
      · intro other
        rw [Option.some_inj]
        constructor
        · rintro rfl
          simp
        · rintro rfl
          simp
      · rw [stack]
        simp [Stack.entries, Stack.ofCode, Entry.brackets]
  | mismatch => simp

/-- Two lines of which the second one abandons its end at a mismatch, and a third. -/
def bracketLines : List (List Char) :=
  ["f(a[i], \x7b".toList, "b \x7d * # ] ) (".toList, "\x7d".toList]

/-- The word of the first two lines begins no balanced word. -/
theorem verdict_bracketLines :
    bracketLines ≠ [] ∧ (∀ line ∈ bracketLines, IsBare line) ∧
      (new {}).untilMismatch bracketLines = bracketLines.take 2 ∧
      ((new {}).validateAll (bracketLines.take 2)).1 = some .mismatch ∧
      ¬ Viable (wordOf (bracketLines.take 2).flatten) := by
  have nonempty : bracketLines ≠ [] := by decide
  have bare : ∀ line ∈ bracketLines, IsBare line := by decide +kernel
  have fed : (new {}).untilMismatch bracketLines = bracketLines.take 2 := by
    decide +kernel
  have last : ((new {}).validateAll (bracketLines.take 2)).1 = some .mismatch := by
    decide +kernel
  have decided := (verdict_untilMismatch {} nonempty bare).2.2.1
  rw [fed] at decided
  exact ⟨nonempty, bare, fed, last, decided.mp last⟩

end Validator

end Delimit
