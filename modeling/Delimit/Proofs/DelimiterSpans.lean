import Delimit.Proofs.CheckedOperations
import Delimit.Proofs.Spelled
import Mathlib.Data.List.Forall2

/-!
# Where open delimiters stand

The delimiters that are open can be pointed at in the input: each entry of the
stack has a span of offsets whose text is its delimiter, the spans come in the order
of the entries from bottom to top, and no two of them overlap.  Every delimiter
takes up at least one character, so there are never more open delimiters than
characters, and none at all when there is no input.
-/

namespace Delimit

/-- The text between two offsets. -/
def textBetween
    (text : List Char)
    (start stop : Nat) :
    List Char :=
  (text.take stop).drop start

theorem textBetween_append
    (front back : List Char)
    {start stop : Nat}
    (inside : stop ≤ front.length) :
    textBetween (front ++ back) start stop = textBetween front start stop := by
  rw [textBetween, List.take_append_of_le_length inside, textBetween]

theorem textBetween_middle
    (front middle back : List Char) :
    textBetween (front ++ (middle ++ back)) front.length
      (front.length + middle.length) = middle := by
  rw [textBetween, List.take_length_add_append, List.drop_left,
    List.take_left]

/--
Spans of offsets at which the delimiters of entries stand in a text, the entries
bottom first.
-/
structure Spans
    (entries : List Entry)
    (text : List Char)
    (spans : List (Nat × Nat)) :
    Prop where
  /-- The text of each span is the delimiter of its entry. -/
  delimiters : List.Forall₂
    (fun entry span =>
      entry.delimiter? = some (textBetween text span.1 span.2))
    entries spans
  /-- No span goes beyond the text. -/
  inside : ∀ span ∈ spans, span.2 ≤ text.length
  /-- A span ends before every later one begins. -/
  apart : spans.Pairwise fun earlier later => earlier.2 ≤ later.1

namespace Spans

variable {entries : List Entry} {text : List Char} {spans : List (Nat × Nat)}

theorem append
    (found : Spans entries text spans)
    (more : List Char) :
    Spans entries (text ++ more) spans where
  delimiters := by
    have same := found.delimiters
    have inside := found.inside
    clear found
    induction same with
    | nil => exact .nil
    | @cons entry span entries spans spells later induction =>
        have first := inside span (List.mem_cons_self ..)
        refine .cons ?_ (induction fun span member =>
          inside span (List.mem_cons_of_mem _ member))
        rw [textBetween_append text more first]
        exact spells
  inside := by
    intro span member
    have := found.inside span member
    rw [List.length_append]
    omega
  apart := found.apart

/-- A delimiter behind the text adds a span behind all others. -/
theorem concat
    (found : Spans entries text spans)
    {entry : Entry}
    {delimiter : List Char}
    (spells : entry.delimiter? = some delimiter)
    (back : List Char) :
    Spans (entries ++ [entry]) (text ++ (delimiter ++ back))
      (spans ++ [(text.length, text.length + delimiter.length)]) where
  delimiters := by
    have last := textBetween_middle text delimiter back
    refine List.rel_append (found.append (delimiter ++ back)).delimiters
      (.cons ?_ .nil)
    rw [spells, last]
  inside := by
    intro span member
    rcases List.mem_append.mp member with earlier | last
    · exact (found.append (delimiter ++ back)).inside span earlier
    · rw [List.mem_singleton.mp last]
      simp only [List.length_append]
      omega
  apart := by
    refine List.pairwise_append.mpr
      ⟨found.apart, List.pairwise_singleton _ _, ?_⟩
    intro earlier member last final
    rw [List.mem_singleton.mp final]
    exact found.inside earlier member

end Spans

namespace Spelled

variable {entries : List Entry} {text : List Char}

/-- The delimiters that a text spells out can be pointed at. -/
theorem exists_spans
    (spelled : Spelled entries text) :
    ∃ spans, Spans entries.reverse text spans := by
  induction spelled with
  | nothing => exact ⟨[], .nil, by simp, .nil⟩
  | @above entry below front delimiter back spelled spells induction =>
      rcases induction with ⟨spans, found⟩
      rw [List.reverse_cons]
      exact ⟨_, found.concat spells back⟩

/-- A text has at least one character for every delimiter that it spells out. -/
theorem length_le
    (spelled : Spelled entries text) :
    entries.length ≤ text.length := by
  induction spelled with
  | nothing => exact Nat.zero_le _
  | above spelled spells induction =>
      rcases Entry.exists_last_of_delimiter? spells with
        ⟨opening, last, rfl, -, -⟩
      simp only [List.length_cons, List.length_append]
      omega

end Spelled

namespace Operation

/--
Whatever is done to a new validator, the delimiters on its stack stand in its input,
in the order in which they are stacked and apart from each other.  So nothing is
open without any input, and no prompt is indented by more than the input is long.
-/
theorem exists_spans_applyAll
    (policy : Policy)
    (operations : List Operation) :
    let validator := applyAll (.new policy) operations
    (∃ spans, Spans validator.stack.entries validator.input spans) ∧
      (validator.input = [] → validator.stack.entries = []) ∧
      validator.expectedIndent ≤ validator.input.length := by
  have spelled := (reachable_applyAll (.new policy) operations).spelled
  have bound := spelled.length_le
  refine ⟨spelled.exists_spans, ?_, bound⟩
  intro empty
  rw [empty, List.length_nil, Nat.le_zero, List.length_eq_zero_iff] at bound
  rw [Stack.entries, bound, List.reverse_nil]

end Operation

end Delimit
