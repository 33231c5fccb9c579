import Delimit.Yaml.Token.Plain
import Delimit.Yaml.Written

/-!
# Runs of written texts

A text that is written without escapes divides into words with blanks or line breaks
between them, but never with both next to each other.  This is what makes room for
folded lines.

A line break that is written between single quotes stands for what it is unified to.
So a next-line control is not read back as itself: as the first of some breaks it is
taken for the end of a folded line, and as a later one it becomes a line feed.  All
other texts are read back as they were written.
-/

namespace Delimit.Yaml.Written

namespace Run

def isWord : Run → Bool
  | word _ => true
  | _ => false

/-- A run is not empty, and its characters are of its class. -/
def IsProper : Run → Prop
  | spaces count => 0 < count
  | breaks characters =>
      characters ≠ [] ∧ ∀ character ∈ characters, isBreak character = true
  | word characters =>
      characters ≠ [] ∧ ∀ character ∈ characters, isSeparator character = false

/-- What is read back of a run. -/
def readBack : Run → List Char
  | breaks ('\u0085' :: later) => Plain.foldedBreaks '\n' (later.map unifiedBreak)
  | breaks characters => characters.map unifiedBreak
  | run => run.characters

end Run

/-- Runs of which every second one is a word. -/
inductive Alternates : List Run → Prop where
  | nil : Alternates []
  | cons
      {run : Run}
      {rest : List Run} :
      run.IsProper →
      (∀ next ∈ rest.head?, next.isWord = !run.isWord) →
      Alternates rest →
      Alternates (run :: rest)

/-! ## Texts that may stand between single quotes -/

theorem allowsPlain_of_ofText
    {text : List Char}
    (plain : Style.ofText text = .plain) :
    Style.allowsPlain text = true := by
  unfold Style.ofText at plain
  split at plain
  · assumption
  · split at plain <;> contradiction

theorem allowsSingle_of_ofText
    {text : List Char}
    (single : Style.ofText text = .single) :
    Style.allowsSingle text = true := by
  unfold Style.ofText at single
  split at single
  · contradiction
  · split at single
    · assumption
    · contradiction

theorem isSeparator_of_isBreak
    {character : Char}
    (breaks : isBreak character = true) :
    isSeparator character = true := by
  rw [isSeparator, breaks, Bool.or_true]

/-- A text that may stand between single quotes, without its first character. -/
theorem allowsSingle_cons
    {character : Char}
    {rest : List Char}
    (allowed : Style.allowsSingle (character :: rest) = true) :
    Style.isWritable character = true ∧
      (character = ' ' → ∀ next ∈ rest.head?, isBreak next = false) ∧
      (isBreak character = true → ∀ next ∈ rest.head?, next ≠ ' ') ∧
      Style.allowsSingle rest = true := by
  simp only [Style.allowsSingle, Style.hasNeighbours, Style.isSpace, List.all_cons,
    Bool.and_eq_true, Bool.not_eq_true', Bool.or_eq_false_iff, Bool.and_eq_false_imp] at allowed
  obtain ⟨⟨⟨here, later⟩, spaced, laterSpaced⟩, broken, laterBroken⟩ := allowed
  refine ⟨here, ?_, ?_, ?_⟩
  · intro space next member
    have unbroken := spaced (beq_iff_eq.mpr space)
    rw [Option.any_eq_false] at unbroken
    simpa using unbroken next member
  · intro breaks next member
    have unspaced := broken breaks
    rw [Option.any_eq_false] at unspaced
    simpa [Style.isSpace] using unspaced next member
  · simp only [Style.allowsSingle, Bool.and_eq_true, Bool.not_eq_true']
    exact ⟨⟨later, laterSpaced⟩, laterBroken⟩

theorem isSeparator_of_isWritable
    {character : Char}
    (writable : Style.isWritable character = true)
    (unspaced : character ≠ ' ')
    (unbroken : isBreak character = false) :
    isSeparator character = false := by
  have untabbed : character ≠ '\t' := by
    rintro rfl
    exact absurd writable (by decide)
  simp [isSeparator, isSpaceOrTab, unspaced, unbroken, untabbed]

/-- The first character of a text is in its first run. -/
theorem head?_of_runs
    {text : List Char}
    {run : Run}
    {rest : List Run}
    (first : runs text = run :: rest)
    (proper : run.IsProper) :
    ∃ character ∈ run.characters, text.head? = some character := by
  have whole := flatMap_runs text
  rw [first, List.flatMap_cons] at whole
  have filled : run.characters ≠ [] := by
    cases run with
    | spaces count =>
        have positive : 0 < count := proper
        simpa [Run.characters] using Nat.pos_iff_ne_zero.mp positive
    | breaks characters => exact proper.1
    | word characters => exact proper.1
  obtain ⟨character, later, split⟩ := List.exists_cons_of_ne_nil filled
  refine ⟨character, by rw [split]; exact List.mem_cons_self, ?_⟩
  rw [← whole, split]
  rfl

theorem Alternates.head
    {run : Run}
    {rest : List Run}
    (alternates : Alternates (run :: rest)) :
    run.IsProper ∧
      (∀ next ∈ rest.head?, next.isWord = !run.isWord) ∧ Alternates rest := by
  cases alternates with
  | cons proper changes later => exact ⟨proper, changes, later⟩

theorem Alternates.alone
    {run : Run}
    (proper : run.IsProper) :
    Alternates [run] :=
  .cons proper (fun _ member => absurd member (by simp)) .nil

/-- A character that grows the first run, or begins a run of the other sort. -/
theorem Alternates.extend
    {run longer : Run}
    {rest : List Run}
    (alternates : Alternates (run :: rest))
    (proper : longer.IsProper)
    (same : longer.isWord = run.isWord) :
    Alternates (longer :: rest) := by
  obtain ⟨-, changes, later⟩ := alternates.head
  exact .cons proper (by rw [same]; exact changes) later

theorem Alternates.consSpace
    {rest : List Run}
    (alternates : Alternates rest)
    (unbroken : ∀ characters, rest.head? ≠ some (.breaks characters)) :
    Alternates (consRun ' ' rest) := by
  have one : (Run.spaces 1).IsProper := Nat.one_pos
  cases rest with
  | nil => exact .alone one
  | cons run rest =>
      cases run with
      | spaces count =>
          have proper : (Run.spaces (count + 1)).IsProper := Nat.succ_pos count
          exact alternates.extend proper rfl
      | breaks characters => exact absurd rfl (unbroken characters)
      | word characters => exact .cons one (by simp [Run.isWord]) alternates

theorem Alternates.consBreak
    {rest : List Run}
    (alternates : Alternates rest)
    {character : Char}
    (breaks : isBreak character = true)
    (unspaced : ∀ count, rest.head? ≠ some (.spaces count)) :
    Alternates (consRun character rest) := by
  have other : (character == ' ') = false := by
    rw [beq_eq_false_iff_ne]
    rintro rfl
    exact absurd breaks (by decide)
  have one : (Run.breaks [character]).IsProper :=
    ⟨List.cons_ne_nil _ _, by simpa using breaks⟩
  unfold consRun
  rw [if_neg (by simp [other]), if_pos breaks]
  cases rest with
  | nil => exact .alone one
  | cons run rest =>
      cases run with
      | spaces count => exact absurd rfl (unspaced count)
      | breaks characters =>
          have proper : (Run.breaks (character :: characters)).IsProper :=
            ⟨List.cons_ne_nil _ _, List.forall_mem_cons.mpr ⟨breaks, alternates.head.1.2⟩⟩
          exact alternates.extend proper rfl
      | word characters => exact .cons one (by simp [Run.isWord]) alternates

theorem Alternates.consInner
    {rest : List Run}
    (alternates : Alternates rest)
    {character : Char}
    (inner : isSeparator character = false) :
    Alternates (consRun character rest) := by
  have ⟨blank, unbroken⟩ : isSpaceOrTab character = false ∧ isBreak character = false := by
    simpa [isSeparator] using inner
  have other : (character == ' ') = false := (Bool.or_eq_false_iff.mp blank).1
  have one : (Run.word [character]).IsProper :=
    ⟨List.cons_ne_nil _ _, by simpa using inner⟩
  unfold consRun
  rw [if_neg (by simp [other]), if_neg (by simp [unbroken])]
  cases rest with
  | nil => exact .alone one
  | cons run rest =>
      cases run with
      | spaces count => exact .cons one (by simp [Run.isWord]) alternates
      | breaks characters => exact .cons one (by simp [Run.isWord]) alternates
      | word characters =>
          have proper : (Run.word (character :: characters)).IsProper :=
            ⟨List.cons_ne_nil _ _, List.forall_mem_cons.mpr ⟨inner, alternates.head.1.2⟩⟩
          exact alternates.extend proper rfl

/-- The runs of a text that may stand between single quotes alternate. -/
theorem alternates_runs
    {text : List Char}
    (allowed : Style.allowsSingle text = true) :
    Alternates (runs text) := by
  induction text with
  | nil => exact .nil
  | cons character rest induction =>
      obtain ⟨writable, afterSpace, afterBreak, later⟩ := allowsSingle_cons allowed
      have alternates := induction later
      rw [runs, List.foldr_cons, ← runs]
      by_cases space : character = ' '
      · subst space
        refine alternates.consSpace fun characters first => ?_
        obtain ⟨run, present⟩ := List.head?_eq_some_iff.mp first
        rw [present] at alternates
        obtain ⟨next, member, head⟩ := head?_of_runs present alternates.head.1
        have breaks := alternates.head.1.2 next member
        rw [afterSpace rfl next head] at breaks
        contradiction
      · by_cases breaks : isBreak character = true
        · refine alternates.consBreak breaks fun count first => ?_
          obtain ⟨run, present⟩ := List.head?_eq_some_iff.mp first
          rw [present] at alternates
          obtain ⟨next, member, head⟩ := head?_of_runs present alternates.head.1
          exact afterBreak breaks next head (List.eq_of_mem_replicate member)
        · exact alternates.consInner
            (isSeparator_of_isWritable writable space (by simpa using breaks))

/-! ## What is read back of a text -/

/-- What is read back of a text that is written. -/
def readBack
    (text : List Char) :
    List Char :=
  match Style.ofText text with
  | .single => (runs text).flatMap Run.readBack
  | _ => text

theorem Alternates.isProper
    {runs : List Run}
    (alternates : Alternates runs) :
    ∀ run ∈ runs, run.IsProper := by
  induction alternates with
  | nil => exact fun _ member => absurd member List.not_mem_nil
  | cons proper _ _ induction => exact List.forall_mem_cons.mpr ⟨proper, induction⟩

theorem unifiedBreak_ne_nextLine
    (character : Char) :
    unifiedBreak character ≠ '\u0085' := by
  unfold unifiedBreak
  split
  · rename_i separator
    rintro rfl
    exact absurd separator (by decide)
  · decide

theorem unifiedBreak_of_ne
    {character : Char}
    (breaks : isBreak character = true)
    (other : character ≠ '\u0085') :
    unifiedBreak character = character := by
  simp only [isBreak, Bool.or_eq_true, beq_iff_eq] at breaks
  rcases breaks with ((rfl | rfl) | rfl) | rfl
  · rfl
  · exact absurd rfl other
  · rfl
  · rfl

namespace Run

/-- A run without a next-line control is read back as it is. -/
theorem readBack_eq
    {run : Run}
    (proper : run.IsProper)
    (without : '\u0085' ∉ run.characters) :
    run.readBack = run.characters := by
  unfold readBack
  split
  · exact absurd List.mem_cons_self without
  · rename_i characters _
    refine (List.map_congr_left fun character member => ?_).trans (List.map_id _)
    refine unifiedBreak_of_ne (proper.2 character member) ?_
    rintro rfl
    exact without member
  · rfl

/-- No next-line control is read back. -/
theorem nextLine_not_mem_readBack
    {run : Run}
    (proper : run.IsProper) :
    '\u0085' ∉ run.readBack := by
  have unified : ∀ characters : List Char, '\u0085' ∉ characters.map unifiedBreak := by
    intro characters member
    obtain ⟨character, -, equality⟩ := List.mem_map.mp member
    exact unifiedBreak_ne_nextLine character equality
  unfold readBack
  split
  · rename_i later
    rw [Plain.foldedBreaks, if_neg (by decide)]
    split
    · decide
    · exact unified later
  · exact unified _
  · rename_i _ unbroken
    intro member
    cases run with
    | spaces count => exact absurd (List.eq_of_mem_replicate member) (by decide)
    | breaks characters => exact (unbroken characters rfl).elim
    | word characters => exact absurd (proper.2 _ member) (by decide)

end Run

/--
A text is read back as it was written, unless it holds a next-line control and is
written between single quotes.
-/
theorem readBack_eq_self_iff
    (text : List Char) :
    readBack text = text ↔
      ¬ (Style.ofText text = .single ∧ '\u0085' ∈ text) := by
  unfold readBack
  split
  · rename_i single
    have proper := (alternates_runs (allowsSingle_of_ofText single)).isProper
    constructor
    · rintro equality ⟨-, member⟩
      rw [← equality] at member
      obtain ⟨run, present, inside⟩ := List.mem_flatMap.mp member
      exact Run.nextLine_not_mem_readBack (proper run present) inside
    · intro without
      have absent : '\u0085' ∉ text := fun member => without ⟨single, member⟩
      have each : ∀ run ∈ runs text, run.readBack = run.characters := by
        intro run present
        refine Run.readBack_eq (proper run present) fun member => absent ?_
        rw [← flatMap_runs text]
        exact List.mem_flatMap.mpr ⟨run, present, member⟩
      rw [List.flatMap_def, List.map_congr_left each, ← List.flatMap_def, flatMap_runs]
  · rename_i other
    exact iff_of_true rfl fun found => other found.1

example : readBack "a\u0085b".toList = "a b".toList := by decide

end Delimit.Yaml.Written
