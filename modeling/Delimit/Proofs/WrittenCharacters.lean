import Delimit.Proofs.QuotedWriting
import Delimit.Text.Lines
import Delimit.Transcript.Written

/-!
# Characters of written transcripts

Whatever characters a text has, the written transcript has only ones that may stand in a
document, and no carriage returns, so reading it from a file changes nothing.
-/

namespace Delimit.Yaml

/-- A character may stand in a document and is no part of a line end but the line feed. -/
def isKept
    (character : Char) :
    Bool :=
  isPrintable character && character != '\r'

theorem unifyLineEnds_eq_self
    {text : List Char}
    (kept : text.all isKept = true) :
    Text.unifyLineEnds text = text := by
  refine Text.unifyLineEnds_of_not_mem fun member => ?_
  exact absurd (List.all_eq_true.mp kept '\r' member) (by decide)

theorem isKept_of_isWritable
    {character : Char}
    (writable : Style.isWritable character = true) :
    isKept character = true := by
  have other : character ≠ '\r' := by
    rintro rfl
    exact absurd writable (by decide)
  have printable : isPrintable character = true := by
    rcases Bool.or_eq_true_iff.mp writable with feed | inside
    · rw [beq_iff_eq.mp feed]
      decide
    · simp [Style.writableRanges, isPrintable, printableRanges, Text.Ranges.contains,
        Text.Ranges.holds] at inside ⊢
      omega
  simp [isKept, printable, other]

theorem isKept_of_isVerbatim
    {character : Char}
    (verbatim : Written.isVerbatim character = true) :
    isKept character = true := by
  refine isKept_of_isWritable (Bool.or_eq_true_iff.mpr (.inr ?_))
  have inside := (Bool.and_eq_true_iff.mp verbatim).2
  simp [Written.verbatimRanges, Style.writableRanges, Text.Ranges.contains,
    Text.Ranges.holds] at inside ⊢
  omega

theorem isKept_of_isHexDigit
    {character : Char}
    (digit : isHexDigit character = true) :
    isKept character = true := by
  refine isKept_of_isWritable (Bool.or_eq_true_iff.mpr (.inr ?_))
  simp [isHexDigit, Char.isDigit, Char.le_def, UInt32.le_iff_toNat_le, Style.writableRanges,
    Text.Ranges.contains, Text.Ranges.holds] at digit ⊢
  omega

namespace Written

/-! ## Texts -/

theorem all_spaces
    (count : Nat) :
    (List.replicate count ' ').all isKept = true := by
  rw [List.all_replicate]
  split
  · rfl
  · decide

theorem all_newLine
    (indent : Nat) :
    (newLine indent).text.all isKept = true :=
  Bool.and_eq_true_iff.mpr ⟨by decide, all_spaces indent⟩

theorem all_plainRuns
    (indent : Nat)
    {runs : List Run}
    (kept : (runs.flatMap Run.characters).all isKept = true)
    (column : Nat) :
    (plainRuns indent runs column).all isKept = true := by
  induction runs generalizing column with
  | nil => rfl
  | cons run rest induction =>
      rw [List.flatMap_cons, List.all_append, Bool.and_eq_true] at kept
      cases run with
      | spaces count =>
          rw [plainRuns]
          simp only [List.all_append, Bool.and_eq_true]
          refine ⟨?_, induction kept.2 _⟩
          split
          · exact all_newLine indent
          · exact kept.1
      | breaks characters =>
          rw [plainRuns, List.all_append, Bool.and_eq_true]
          · exact ⟨kept.1, induction kept.2 _⟩
          · nofun
      | word characters =>
          rw [plainRuns, List.all_append, Bool.and_eq_true]
          · exact ⟨kept.1, induction kept.2 _⟩
          · nofun

theorem all_doubleQuotes
    {characters : List Char}
    (kept : characters.all isKept = true) :
    (doubleQuotes characters).all isKept = true := by
  rw [doubleQuotes, List.all_flatMap, List.all_eq_true]
  intro character member
  split
  · decide
  · simpa using List.all_eq_true.mp kept character member

theorem all_breakLines
    (indent : Nat)
    {breaks : List Char}
    (kept : breaks.all isKept = true) :
    (breakLines indent breaks).text.all isKept = true := by
  have extra : (if breaks.head? == some '\n' then ['\n'] else []).all isKept = true := by
    split <;> decide
  unfold breakLines
  simp only [List.all_append, extra, kept, all_spaces, Bool.and_self]

theorem all_singleRuns
    (indent : Nat)
    {runs : List Run}
    (kept : (runs.flatMap Run.characters).all isKept = true)
    (first : Bool)
    (column : Nat) :
    (singleRuns indent first runs column).all isKept = true := by
  induction runs generalizing first column with
  | nil => rfl
  | cons run rest induction =>
      rw [List.flatMap_cons, List.all_append, Bool.and_eq_true] at kept
      cases run with
      | spaces count =>
          rw [singleRuns]
          simp only [List.all_append, Bool.and_eq_true]
          refine ⟨?_, induction kept.2 _ _⟩
          split
          · exact all_newLine indent
          · exact kept.1
      | breaks characters =>
          rw [singleRuns, List.all_append, Bool.and_eq_true]
          exact ⟨all_breakLines indent kept.1, induction kept.2 _ _⟩
      | word characters =>
          rw [singleRuns, List.all_append, Bool.and_eq_true]
          exact ⟨all_doubleQuotes kept.1, induction kept.2 _ _⟩

theorem all_upperHex
    (width number : Nat) :
    (upperHex width number).all isKept = true := by
  have zeros : (List.replicate (width - (Nat.toDigits 16 number).length) '0').all isKept =
      true := by
    rw [List.all_replicate]
    split
    · rfl
    · decide
  rw [upperHex_eq, List.all_append, zeros, Bool.true_and, List.all_eq_true]
  exact fun digit member => isKept_of_isHexDigit ((hexValue_toDigits number).1 digit member)

theorem all_escape
    (character : Char) :
    (escape character).all isKept = true := by
  have letters : ∀ letter, escapeLetter? character = some letter → isKept letter = true := by
    intro letter named
    unfold escapeLetter? at named
    split at named <;> first
      | contradiction
      | (rw [← Option.some.inj named]; decide)
  have mark : isKept '\\' = true := by decide
  have widths : isKept 'x' = true ∧ isKept 'u' = true ∧ isKept 'U' = true := by decide
  unfold escape
  split
  · next letter named => simp only [List.all_cons, List.all_nil, mark, letters letter named,
      Bool.and_self]
  · dsimp only
    split
    · simp only [List.all_cons, mark, widths, all_upperHex, Bool.and_self]
    · split <;> simp only [List.all_cons, mark, widths, all_upperHex, Bool.and_self]

theorem all_foldedLine
    (indent : Nat)
    (next : Option Char) :
    (foldedLine indent next).text.all isKept = true := by
  have mark : isKept '\\' = true := by decide
  have line := all_newLine indent
  unfold foldedLine
  dsimp only
  split <;> simp [mark, line]

theorem all_doubleRest
    (indent : Nat)
    (text : List Char)
    (first : Bool)
    {pending : List Char}
    (kept : pending.all isKept = true)
    (column : Nat) :
    (doubleRest indent first pending text column).all isKept = true := by
  induction text generalizing first pending column with
  | nil =>
      rw [doubleRest, List.all_append, List.all_reverse, kept]
      decide
  | cons character rest induction =>
      rw [doubleRest]
      dsimp only
      split
      · next verbatim =>
          have here := isKept_of_isVerbatim verbatim
          split
          · have later := @induction false [character] (by simp [here])
            simp only [List.all_append, List.all_reverse, kept, all_foldedLine, later, Bool.and_self]
          · exact induction _ (by simp only [List.all_cons, here, kept, Bool.and_self]) _
      · have later := @induction false [] rfl
        split <;> simp only [List.all_append, List.all_reverse, kept, all_escape, all_foldedLine,
          later, Bool.and_self]

/-- A text that is not written between double quotes is written by its own characters. -/
theorem all_runs
    {text : List Char}
    (allowed : Style.allowsSingle text = true) :
    ((runs text).flatMap Run.characters).all isKept = true := by
  unfold Style.allowsSingle at allowed
  simp only [Bool.and_eq_true] at allowed
  rw [flatMap_runs, List.all_eq_true]
  exact fun character member =>
    isKept_of_isWritable (List.all_eq_true.mp allowed.1.1 character member)

theorem all_value
    (indent column : Nat)
    (text : List Char) :
    (value indent column text).all isKept = true := by
  have space : isKept ' ' = true := by decide
  have quotes : isKept '\'' = true ∧ isKept '"' = true := by decide
  unfold value
  split
  · next plain =>
      have allowed := allowsPlain_of_ofText plain
      unfold Style.allowsPlain at allowed
      simp only [Bool.and_eq_true] at allowed
      rw [List.all_cons, space, all_plainRuns indent (all_runs allowed.1.1.1.1)]
      rfl
  · next single =>
      rw [List.all_cons, List.all_cons, space, quotes.1,
        all_singleRuns indent (all_runs (allowsSingle_of_ofText single))]
      rfl
  · rw [List.all_cons, List.all_cons, space, quotes.2, all_doubleRest indent text true rfl]
    rfl

end Written

end Delimit.Yaml

namespace Delimit.Transcript

open Yaml

theorem all_writtenText
    (column : Nat)
    (name : String)
    (kept : name.toList.all isKept = true)
    (text : List Char) :
    (writtenText column name text).all isKept = true := by
  have ends : isKept ':' = true ∧ isKept '\n' = true := by decide
  unfold writtenText
  simp only [List.all_append, List.all_cons, List.all_nil, kept, ends, Written.all_value,
    Bool.and_self]

theorem all_writtenNumber
    (name : String)
    (kept : name.toList.all isKept = true)
    (number : Nat) :
    (writtenNumber name number).all isKept = true := by
  have ends : isKept ':' = true ∧ isKept ' ' = true ∧ isKept '\n' = true := by decide
  have digits : (Nat.toDigits 10 number).all isKept = true := by
    rw [List.all_eq_true]
    intro digit member
    have decimal : digit.isDigit = true :=
      Nat.isDigit_of_mem_toDigits (by decide) (by decide) member
    exact isKept_of_isHexDigit (by rw [isHexDigit, decimal]; rfl)
  unfold writtenNumber
  simp only [List.all_append, List.all_cons, List.all_nil, kept, ends, digits, Bool.and_self]

theorem all_writtenUnit
    (unit : UnitRecord) :
    (writtenUnit unit).all isKept = true := by
  have item : "- ".toList.all isKept = true := by decide
  have indent : "  ".toList.all isKept = true := by decide
  have index := all_writtenNumber "index" (by decide) unit.index
  have firstLine := all_writtenNumber "first-line" (by decide) unit.firstLine
  have lastLine := all_writtenNumber "last-line" (by decide) unit.lastLine
  have status := all_writtenText 2 "status" (by decide) unit.status.label.toList
  have text := all_writtenText 2 "text" (by decide) unit.text
  unfold writtenUnit
  simp only [List.all_append, item, indent, index, firstLine, lastLine, status, text,
    Bool.and_self]

/-- A transcript is written by characters that reading a document keeps. -/
theorem all_written
    (transcript : Transcript) :
    transcript.written.all isKept = true := by
  have source := all_writtenText 0 "source" (by decide) transcript.source
  have units : (transcript.units.flatMap writtenUnit).all isKept = true := by
    rw [List.all_flatMap, List.all_eq_true]
    exact fun unit _ => all_writtenUnit unit
  unfold written
  rw [List.all_append, source, Bool.true_and]
  split
  · decide
  · rw [List.all_append, units]
    decide

end Delimit.Transcript
