import Delimit.Token
import Mathlib.Data.List.Induction

/-!
# Balanced words

The brackets of a text, everything else left out, form a word.  The balanced words
are the empty word, two balanced words one behind the other, and a balanced word
between a bracket and its partner.  A word is viable if more brackets can make it
balanced.

A reader that keeps the brackets that are still open, the last one first, reads a
word to its end exactly if the word is viable, and ends with nothing open exactly if
the word is balanced.  What it ends with are the opening brackets that have no
partner in the word.
-/

namespace Delimit

/-- A bracket as it stands in a text. -/
inductive BracketMark where
  | opens (bracket : Bracket)
  | closes (bracket : Bracket)
  deriving DecidableEq, Repr

namespace BracketMark

/-- The words that the grammar of matching brackets generates. -/
inductive Balanced : List BracketMark → Prop where
  | empty : Balanced []
  | append {first second : List BracketMark} :
      Balanced first → Balanced second → Balanced (first ++ second)
  | enclose (bracket : Bracket) {inner : List BracketMark} :
      Balanced inner →
        Balanced (.opens bracket :: inner ++ [.closes bracket])

/-- Whether a word begins some balanced word. -/
def Viable
    (word : List BracketMark) :
    Prop :=
  ∃ rest, Balanced (word ++ rest)

/-- The opening brackets of a word that have no partner in it, in their order. -/
inductive Unmatched : List BracketMark → List Bracket → Prop where
  /-- In a balanced word every bracket has its partner. -/
  | balanced {word : List BracketMark} :
      Balanced word → Unmatched word []
  /-- No partner follows a bracket behind which everything is balanced. -/
  | opens {front inner : List BracketMark} {opened : List Bracket}
      (bracket : Bracket) :
      Unmatched front opened → Balanced inner →
        Unmatched (front ++ .opens bracket :: inner) (opened ++ [bracket])

/--
The brackets that are open when a word has been read, the last one first; nothing
if a closing bracket does not match the last one.
-/
def read (opened : List Bracket) : List BracketMark → Option (List Bracket)
  | [] => some opened
  | .opens bracket :: rest => read (bracket :: opened) rest
  | .closes bracket :: rest =>
      if opened.head? = some bracket then
        read opened.tail rest
      else
        none

theorem read_append
    (opened : List Bracket)
    (first second : List BracketMark) :
    read opened (first ++ second) =
      (read opened first).bind (read · second) := by
  induction first generalizing opened with
  | nil => rfl
  | cons mark first induction =>
      cases mark with
      | opens bracket => exact induction (bracket :: opened)
      | closes bracket =>
          rw [List.cons_append, read, read]
          split
          · exact induction opened.tail
          · rfl

/-- Reading a balanced word leaves open what was open before. -/
theorem Balanced.read_eq
    {word : List BracketMark}
    (balanced : Balanced word)
    (opened : List Bracket) :
    read opened word = some opened := by
  induction balanced generalizing opened with
  | empty => rfl
  | append first second readFirst readSecond =>
      rw [read_append, readFirst opened]
      exact readSecond opened
  | enclose bracket inner readInner =>
      rw [List.cons_append, read, read_append, readInner (bracket :: opened)]
      simp [read]

/-- What a word leaves open is what has no partner in it. -/
theorem Unmatched.read_eq
    {word : List BracketMark}
    {opened : List Bracket}
    (unmatched : Unmatched word opened) :
    read [] word = some opened.reverse := by
  induction unmatched with
  | balanced balanced => exact balanced.read_eq []
  | @opens front inner opened bracket before balanced readFront =>
      rw [read_append, readFront, List.reverse_append]
      exact balanced.read_eq (bracket :: opened.reverse)

theorem Unmatched.append
    {word inner : List BracketMark}
    {opened : List Bracket}
    (unmatched : Unmatched word opened)
    (balanced : Balanced inner) :
    Unmatched (word ++ inner) opened := by
  cases unmatched with
  | balanced first => exact .balanced (first.append balanced)
  | opens bracket before second =>
      rw [List.append_assoc, List.cons_append]
      exact .opens bracket before (second.append balanced)

/-- A closing bracket gives the last unmatched bracket its partner. -/
theorem Unmatched.close
    {word : List BracketMark}
    {opened : List Bracket}
    {bracket : Bracket}
    (unmatched : Unmatched word (opened ++ [bracket])) :
    Unmatched (word ++ [.closes bracket]) opened := by
  generalize whole : opened ++ [bracket] = all at unmatched
  cases unmatched with
  | balanced balanced => simp at whole
  | @opens front inner before last unmatched balanced =>
      rcases List.append_inj' whole rfl with ⟨rfl, same⟩
      cases same
      have partners := unmatched.append (balanced.enclose bracket)
      simpa using partners

/-- The reader ends with what has no partner in the word. -/
theorem unmatched_of_read
    {word : List BracketMark}
    {opened : List Bracket}
    (reads : read [] word = some opened) :
    Unmatched word opened.reverse := by
  induction word using List.reverseRecOn generalizing opened with
  | nil =>
      cases reads
      exact .balanced .empty
  | append_singleton front mark induction =>
      rw [read_append] at reads
      rcases Option.bind_eq_some_iff.mp reads with ⟨before, readFront, last⟩
      have unmatched := induction readFront
      cases mark with
      | opens bracket =>
          cases last
          rw [List.reverse_cons]
          exact .opens bracket unmatched .empty
      | closes bracket =>
          rw [read] at last
          split at last
          · rename_i top
            rcases List.head?_eq_some_iff.mp top with ⟨below, rfl⟩
            cases last
            rw [List.reverse_cons] at unmatched
            exact unmatched.close
          · cases last

theorem unmatched_iff_read
    {word : List BracketMark}
    {opened : List Bracket} :
    Unmatched word opened ↔ read [] word = some opened.reverse := by
  constructor
  · exact Unmatched.read_eq
  · intro reads
    have unmatched := unmatched_of_read reads
    rwa [List.reverse_reverse] at unmatched

/-- A word without unmatched brackets is one that the grammar generates. -/
theorem Unmatched.balanced_of_nil
    {word : List BracketMark}
    (unmatched : Unmatched word []) :
    Balanced word := by
  generalize nothing : ([] : List Bracket) = opened at unmatched
  cases unmatched with
  | balanced balanced => exact balanced
  | opens bracket before inner => simp at nothing

theorem balanced_iff_read
    {word : List BracketMark} :
    Balanced word ↔ read [] word = some [] := by
  constructor
  · intro balanced
    exact balanced.read_eq []
  · intro reads
    exact (unmatched_of_read reads).balanced_of_nil

/-- The partners of the unmatched brackets, the last one first, balance a word. -/
theorem Unmatched.balanced_append
    {word : List BracketMark}
    {opened : List Bracket}
    (unmatched : Unmatched word opened) :
    Balanced (word ++ opened.reverse.map .closes) := by
  induction opened using List.reverseRecOn generalizing word with
  | nil => simpa using unmatched.balanced_of_nil
  | append_singleton before bracket induction =>
      have balanced := induction unmatched.close
      simpa using balanced

theorem viable_iff_read
    {word : List BracketMark} :
    Viable word ↔ ∃ opened, read [] word = some opened := by
  constructor
  · rintro ⟨rest, balanced⟩
    have reads := balanced.read_eq []
    rw [read_append] at reads
    rcases Option.bind_eq_some_iff.mp reads with ⟨opened, reads, -⟩
    exact ⟨opened, reads⟩
  · rintro ⟨opened, reads⟩
    exact ⟨_, (unmatched_of_read reads).balanced_append⟩

end BracketMark

end Delimit
