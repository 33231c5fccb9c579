import Delimit.Proofs.QuotedReading
import Delimit.Proofs.WrittenRuns

/-!
# Plain texts are read back

A text without quotes is written as words with spaces between them, of which lone
ones may become line breaks.  A reader takes word by word, since no word ends in a
colon or begins with a hash sign, and restores what is between them, as long as the
lines are indented.  It stops where a line is indented less, or before the colon of a
key.
-/

namespace Delimit.Yaml

open Delimit.Yaml.Flow (BeginsInside)

namespace Written

/-- Characters that a plain scalar may hold next to each other. -/
structure IsPlainWord
    (characters : List Char) :
    Prop where
  filled : characters ≠ []
  inner : ∀ character ∈ characters, isSeparator character = false
  noHash : characters.head? ≠ some '#'
  noColon : characters.getLast? ≠ some ':'

/-- Words with spaces between them. -/
inductive Joined : List Run → Prop where
  | word
      {characters : List Char} :
      IsPlainWord characters →
      Joined [.word characters]
  | cons
      {characters : List Char}
      {count : Nat}
      {rest : List Run} :
      IsPlainWord characters →
      0 < count →
      Joined rest →
      Joined (.word characters :: .spaces count :: rest)

/-- Joined runs are written from a word on. -/
theorem Joined.begins
    {runs : List Run}
    (joined : Joined runs)
    (indent column : Nat)
    (after : List Char) :
    ∃ character rest,
      plainRuns indent runs column ++ after = character :: rest ∧
        isSeparator character = false ∧ character ≠ '#' := by
  cases joined with
  | word plain | cons plain =>
      obtain ⟨character, later, rfl⟩ := List.exists_cons_of_ne_nil plain.filled
      exact ⟨character, _, rfl, plain.inner _ List.mem_cons_self,
        fun hash => plain.noHash (congrArg some hash)⟩

end Written

namespace Plain

open Written (Run IsPlainWord Joined plainRuns newLine inline foldsAt)

/-! ## Words and gaps -/

/-- A word is one piece in front of characters that begin no piece. -/
theorem pieceLength_word
    {characters : List Char}
    (inner : ∀ character ∈ characters, isSeparator character = false)
    (noColon : characters.getLast? ≠ some ':')
    {after : List Char}
    (ends : pieceLength false after = 0) :
    pieceLength false (characters ++ after) = characters.length := by
  induction characters with
  | nil => exact ends
  | cons character characters induction =>
      have here := inner character List.mem_cons_self
      have laterInner := fun other member => inner other (List.mem_cons_of_mem _ member)
      have goesOn : (character == ':' && endsKey false (characters ++ after).head?) = false := by
        cases characters with
        | nil => simpa using fun colon => absurd colon (by simpa using noColon)
        | cons next characters =>
            simp [endsKey, endsWord, inner next (by simp)]
      have later : characters.getLast? ≠ some ':' := by
        cases characters with
        | nil => simp
        | cons next characters => rwa [List.getLast?_cons_cons] at noColon
      rw [List.cons_append, pieceLength, if_neg (by simp [here]), goesOn, if_neg (by simp),
        if_neg (by simp), induction laterInner later]
      rfl

theorem blankLines_spaces
    (count : Nat)
    {rest : List Char}
    (inside : ∀ character ∈ rest.head?, isSeparator character = false) :
    blankLines (List.replicate count ' ' ++ rest) = (some [], count) := by
  induction count with
  | zero =>
      cases rest with
      | nil => rfl
      | cons character rest =>
          have inner := inside character rfl
          simp only [isSeparator, isSpaceOrTab, Bool.or_eq_false_iff] at inner
          rw [List.replicate_zero, List.nil_append, blankLines,
            if_neg (by simp [inner.1.1]), if_neg (by simp [inner.2])]
  | succ count induction =>
      rw [List.replicate_succ, List.cons_append, blankLines, if_pos (by rfl), induction]

/-- Spaces between words stand for themselves. -/
theorem gap_spaces
    (count : Nat)
    {rest : List Char}
    (inside : BeginsInside rest)
    {cursor : Cursor}
    (next : cursor.rest = List.replicate count ' ' ++ rest) :
    gap cursor = ⟨List.replicate count ' ', cursor.advance count, false⟩ := by
  obtain ⟨character, later, rfl, inner⟩ := inside
  simp only [isSeparator, isSpaceOrTab, Bool.or_eq_false_iff] at inner
  have spans := Cursor.spanWhile_eq (· == ' ')
    (fun other member => by rw [List.eq_of_mem_replicate member]; rfl)
    (by simpa using inner.1.1) next
  have behind := Cursor.rest_advance_length next
  have unbroken : (cursor.advance (List.replicate count ' ').length).lineBreak? = none :=
    Cursor.lineBreak?_eq_none (by rw [behind]; simpa using inner.2)
  unfold gap
  rw [spans]
  dsimp only
  rw [unbroken, List.length_replicate]

/-- A line break and the indentation behind it stand for a space. -/
theorem gap_newLine
    (count : Nat)
    {rest : List Char}
    (inside : ∀ character ∈ rest.head?, isSeparator character = false)
    (unmarked : startsWithDocumentMark (List.replicate count ' ' ++ rest) = false)
    {cursor : Cursor}
    (next : cursor.rest = '\n' :: (List.replicate count ' ' ++ rest)) :
    gap cursor = ⟨[' '], cursor.advance (count + 1), true⟩ := by
  have spans : cursor.spanWhile (· == ' ') = ([], cursor) :=
    Cursor.spanWhile_eq _ (fun _ member => absurd member List.not_mem_nil) (by simp) next
  have behind : (cursor.advance 1).rest = List.replicate count ' ' ++ rest := by
    rw [Cursor.rest_advance, next]
    rfl
  have broken : isBreak '\n' = true := rfl
  unfold gap
  rw [spans]
  dsimp only
  rw [Cursor.lineBreak?_eq_some next broken]
  dsimp only
  rw [behind, if_neg (by simp [unmarked]), blankLines_spaces count inside]
  dsimp only
  rw [← Cursor.advance_add, Nat.add_comm 1]
  rfl

/-! ## Reading joined words -/

/--
A plain scalar that is indented by some columns ends before some characters, of which
the gap behind it takes a number.
-/
structure Stops
    (least : Int)
    (after : List Char)
    (length : Nat)
    (broken : Bool) :
    Prop where
  noPiece : pieceLength false after = 0
  ends :
    ∀ cursor : Cursor,
      cursor.rest = after →
        ∃ text,
          gap cursor = ⟨text, cursor.advance length, broken⟩ ∧
            (text = [] ∨ ((cursor.advance length).column : Int) < least)

/-- A plain scalar ends where a line is indented less than it. -/
theorem stops_newLine
    {least : Int}
    {count : Nat}
    (outside : (count : Int) < least)
    {rest : List Char}
    (inside : ∀ character ∈ rest.head?, isSeparator character = false)
    (unmarked : startsWithDocumentMark (List.replicate count ' ' ++ rest) = false) :
    Stops least ('\n' :: (List.replicate count ' ' ++ rest)) (count + 1) true where
  noPiece := rfl
  ends := by
    intro cursor next
    refine ⟨[' '], gap_newLine count inside unmarked next, .inr ?_⟩
    have broken : isBreak '\n' = true := rfl
    rwa [Cursor.column_advance_newLine broken count next]

/-- A plain scalar ends before a colon that ends a word. -/
theorem stops_colon
    (least : Int)
    {rest : List Char}
    (ends : endsWord rest.head? = true) :
    Stops least (':' :: rest) 0 false where
  noPiece := by
    rw [pieceLength, if_neg (by decide), if_pos (by simp [endsKey, ends])]
  ends := by
    intro cursor next
    exact ⟨[], gap_spaces 0 ⟨':', rest, rfl, by decide⟩ next, .inl rfl⟩

/-- One round of the reading of a plain scalar, at a word. -/
theorem pieces_word
    {least : Int}
    {reading : Reading}
    {characters after : List Char}
    (plain : IsPlainWord characters)
    (ends : pieceLength false after = 0)
    (next : reading.cursor.rest = characters ++ after)
    (fuel : Nat) :
    pieces false least (fuel + 1) reading =
      let gap := gap (reading.cursor.advance characters.length)
      if !gap.text.isEmpty && gap.cursor.peek? != some '#' && decide (least ≤ gap.cursor.column) then
        let later := pieces false least fuel ⟨gap.text, gap.cursor, gap.broken⟩
        { later with text := reading.text ++ characters ++ later.text }
      else
        ⟨reading.text ++ characters, gap.cursor, gap.broken⟩ := by
  have length : pieceLength false reading.cursor.rest = characters.length := by
    rw [next, pieceLength_word plain.inner plain.noColon ends]
  have noHash : reading.cursor.peek? ≠ some '#' := by
    obtain ⟨character, later, rfl⟩ := List.exists_cons_of_ne_nil plain.filled
    rw [Cursor.peek?, next]
    exact plain.noHash
  have filled : characters.length ≠ 0 := by
    simpa using plain.filled
  rw [pieces]
  dsimp only
  rw [length, if_neg (by simp [noHash, filled]), next, List.take_left]
  simp only [Bool.false_or]

/-- What is written between two words. -/
def between
    (indent count column : Nat) :
    Written.Piece :=
  if foldsAt count column then
    newLine indent
  else
    inline (List.replicate count ' ') column

theorem plainRuns_cons
    (indent column count : Nat)
    (characters : List Char)
    (rest : List Run) :
    plainRuns indent (.word characters :: .spaces count :: rest) column =
      characters ++
        ((between indent count (column + characters.length)).text ++
          plainRuns indent rest
            (between indent count (column + characters.length)).column) := rfl

/-- What is written between two words is read back as spaces, and the scalar goes on behind it. -/
theorem gap_between
    {least : Int}
    {indent : Nat}
    (indented : 0 < indent)
    (inside : least ≤ indent)
    {count : Nat}
    (positive : 0 < count)
    (column : Nat)
    {rest : List Char}
    (begins : BeginsInside rest) :
    pieceLength false ((between indent count column).text ++ rest) = 0 ∧
      ∀ cursor : Cursor,
        least ≤ cursor.column →
        cursor.rest = (between indent count column).text ++ rest →
          ∃ broken,
            gap cursor =
                ⟨List.replicate count ' ',
                  cursor.advance (between indent count column).text.length, broken⟩ ∧
              least ≤ (cursor.advance (between indent count column).text.length).column := by
  unfold between
  split
  · rename_i folds
    have single : count = 1 := by
      simp only [foldsAt, Bool.and_eq_true, beq_iff_eq] at folds
      exact folds.1
    subst single
    refine ⟨rfl, fun cursor _ next => ⟨true, ?_⟩⟩
    obtain ⟨character, later, rfl, inner⟩ := begins
    have unmarked : startsWithDocumentMark
        (List.replicate indent ' ' ++ character :: later) = false := by
      obtain ⟨indent, rfl⟩ := Nat.exists_eq_add_of_lt indented
      rw [Nat.zero_add, List.replicate_succ, List.cons_append]
      exact Flow.startsWithDocumentMark_space _
    have broken : isBreak '\n' = true := rfl
    have length : (newLine indent).text.length = indent + 1 := by simp [newLine]
    rw [length, gap_newLine indent (by simpa using inner) unmarked next,
      Cursor.column_advance_newLine broken indent next]
    exact ⟨rfl, inside⟩
  · have length : (inline (List.replicate count ' ') column).text.length = count :=
      List.length_replicate
    rw [length]
    refine ⟨?_, fun cursor here next => ⟨false, gap_spaces count begins next, ?_⟩⟩
    · obtain ⟨count, rfl⟩ := Nat.exists_eq_add_of_lt positive
      rw [Nat.zero_add]
      rfl
    · rw [Cursor.column_advance_spaces count next]
      omega

/-- The last word of a plain scalar is read up to where the scalar stops. -/
theorem pieces_lastWord
    {least : Int}
    {after : List Char}
    {length : Nat}
    {broken : Bool}
    (stops : Stops least after length broken)
    {characters : List Char}
    (plain : IsPlainWord characters)
    {reading : Reading}
    (next : reading.cursor.rest = characters ++ after)
    (fuel : Nat) :
    pieces false least (fuel + 1) reading =
      ⟨reading.text ++ characters, reading.cursor.advance (characters.length + length),
        broken⟩ := by
  obtain ⟨text, gapped, ended⟩ := stops.ends _ (Cursor.rest_advance_length next)
  have halts : (!text.isEmpty &&
      ((reading.cursor.advance characters.length).advance length).peek? != some '#' &&
      decide (least ≤
        (((reading.cursor.advance characters.length).advance length).column : Int))) =
      false := by
    rcases ended with rfl | outside
    · rfl
    · rw [decide_eq_false (Int.not_le.mpr outside), Bool.and_false]
  rw [pieces_word plain stops.noPiece next, gapped]
  dsimp only
  rw [halts, if_neg (by simp), Cursor.advance_add]

/-- Joined words are read up to where the scalar stops. -/
theorem pieces_joined
    {least : Int}
    {indent : Nat}
    (indented : 0 < indent)
    (inside : least ≤ indent)
    {after : List Char}
    {length : Nat}
    {broken : Bool}
    (stops : Stops least after length broken)
    {runs : List Run}
    (joined : Joined runs)
    (column : Nat)
    {reading : Reading}
    (here : least ≤ reading.cursor.column)
    (next : reading.cursor.rest = plainRuns indent runs column ++ after)
    {fuel : Nat}
    (enough : (plainRuns indent runs column).length ≤ fuel) :
    pieces false least fuel reading =
      ⟨reading.text ++ runs.flatMap Run.characters,
        reading.cursor.advance ((plainRuns indent runs column).length + length), broken⟩ := by
  induction joined generalizing column reading fuel with
  | @word characters plain =>
      have written : plainRuns indent [.word characters] column = characters :=
        List.append_nil characters
      rw [written] at next enough ⊢
      obtain ⟨fuel, rfl⟩ := Nat.exists_eq_add_of_lt
        (Nat.lt_of_lt_of_le (List.length_pos_iff.mpr plain.filled) enough)
      rw [pieces_lastWord stops plain next, List.flatMap_singleton]
      rfl
  | @cons characters count rest plain positive joined induction =>
      rw [plainRuns_cons] at next enough ⊢
      obtain ⟨character, tail, begins, inner, noHash⟩ :=
        joined.begins indent (between indent count (column + characters.length)).column after
      obtain ⟨noPiece, gapped⟩ := gap_between indented inside positive
        (column + characters.length) ⟨character, tail, begins, inner⟩
      generalize between indent count (column + characters.length) = piece at *
      rw [List.append_assoc, List.append_assoc] at next
      have unbroken : ∀ other ∈ characters, isBreak other = false := fun other member =>
        (Bool.or_eq_false_iff.mp (plain.inner other member)).2
      have ⟨_, further, _⟩ := Cursor.advance_inline unbroken next
      have behind := Cursor.rest_advance_length next
      obtain ⟨folded, read, onwards⟩ := gapped (reading.cursor.advance characters.length)
        (Int.le_trans here (by exact_mod_cast further)) behind
      have behindGap := Cursor.rest_advance_length behind
      obtain ⟨fuel, rfl⟩ := Nat.exists_eq_add_of_lt
        (Nat.lt_of_lt_of_le (List.length_pos_iff.mpr plain.filled)
          (Nat.le_trans (by simp) enough))
      have goesOn : (!(List.replicate count ' ').isEmpty &&
          ((reading.cursor.advance characters.length).advance piece.text.length).peek? !=
            some '#' &&
          decide (least ≤ (((reading.cursor.advance characters.length).advance
            piece.text.length).column : Int))) = true := by
        rw [Cursor.peek?, behindGap, begins, decide_eq_true onwards]
        simp [noHash, Nat.pos_iff_ne_zero.mp positive]
      rw [pieces_word plain noPiece next, read]
      dsimp only
      rw [goesOn, if_pos rfl, induction piece.column onwards behindGap (by
        simp only [List.length_append] at enough
        have := List.length_pos_iff.mpr plain.filled
        omega)]
      simp only [List.flatMap_cons, Run.characters, List.append_assoc, List.length_append,
        ← Cursor.advance_add, Nat.add_assoc]

end Plain

namespace Written

/-! ## Plain texts -/

theorem interruptsAfter_of_append
    {previous : Char}
    {front rest : List Char}
    (allowed : Style.interruptsAfter previous (front ++ rest) = false) :
    Style.interruptsAfter (front.getLastD previous) rest = false := by
  induction front generalizing previous with
  | nil => exact allowed
  | cons character front induction =>
      rw [List.getLastD_cons]
      exact induction (Bool.or_eq_false_iff.mp allowed).2

/-- A plain text may also stand behind a space. -/
theorem interruptsAfter_space
    {text : List Char}
    (allowed : Style.hasIndicators text = false) :
    Style.interruptsAfter ' ' text = false := by
  cases text with
  | nil => rfl
  | cons first rest =>
      simp only [Style.hasIndicators, Style.leadsBadly, Bool.or_eq_false_iff,
        Bool.and_eq_false_imp, Bool.or_eq_true] at allowed
      obtain ⟨⟨-, noIndicator, noMark⟩, later⟩ := allowed
      have noHash : (first == '#') = false := by
        rw [beq_eq_false_iff_ne]
        rintro rfl
        exact absurd noIndicator (by decide)
      rw [Style.interruptsAfter, later, Bool.or_false, Style.interrupts, noHash, Bool.false_and,
        Bool.or_false, Bool.and_eq_false_imp]
      exact fun colon => noMark (.inl (.inr colon))

theorem Run.getLastD_isSeparator
    {run : Run}
    (proper : run.IsProper)
    (gap : run.isWord = false)
    (previous : Char) :
    isSeparator (run.characters.getLastD previous) = true := by
  have separates : run.characters ≠ [] ∧
      ∀ character ∈ run.characters, isSeparator character = true := by
    cases run with
    | spaces count =>
        refine ⟨by simpa [Run.characters] using Nat.pos_iff_ne_zero.mp proper, ?_⟩
        intro character member
        rw [List.eq_of_mem_replicate member]
        rfl
    | breaks characters =>
        exact ⟨proper.1, fun character member => isSeparator_of_isBreak (proper.2 _ member)⟩
    | word characters => contradiction
  rw [List.getLastD_eq_getLast?, List.getLast?_eq_some_getLast separates.1]
  exact separates.2 _ (List.getLast_mem _)

/-- What comes behind a word begins with a blank or a line break, if anything does. -/
theorem endsWord_of_changes
    {rest : List Run}
    (alternates : Alternates rest)
    (gap : ∀ next ∈ rest.head?, next.isWord = false) :
    endsWord (rest.flatMap Run.characters).head? = true := by
  cases rest with
  | nil => rfl
  | cons run rest =>
      have proper := alternates.head.1
      cases run with
      | spaces count =>
          obtain ⟨count, rfl⟩ := Nat.exists_eq_add_of_lt proper
          rw [Nat.zero_add]
          rfl
      | breaks characters =>
          obtain ⟨character, later, rfl⟩ := List.exists_cons_of_ne_nil proper.1
          exact isSeparator_of_isBreak (proper.2 _ List.mem_cons_self)
      | word characters => exact absurd (gap _ rfl) (by simp [Run.isWord])

/-- The words of a text without indicators are plain. -/
theorem isPlainWord_of_mem
    {runs : List Run}
    (alternates : Alternates runs)
    (previous : Char)
    (separated : ∀ next ∈ runs.head?, next.isWord = true → isSeparator previous = true)
    (allowed : Style.interruptsAfter previous (runs.flatMap Run.characters) = false)
    {characters : List Char}
    (member : .word characters ∈ runs) :
    IsPlainWord characters := by
  induction alternates generalizing previous with
  | nil => exact absurd member List.not_mem_nil
  | @cons run rest proper changes alternates induction =>
      rw [List.flatMap_cons] at allowed
      rcases List.mem_cons.mp member with rfl | later
      · have behind := endsWord_of_changes alternates changes
        refine ⟨proper.1, proper.2, ?_, ?_⟩
        · intro hash
          obtain ⟨others, rfl⟩ := List.head?_eq_some_iff.mp hash
          have between := (Bool.or_eq_false_iff.mp allowed).1
          rw [Style.interrupts, separated _ rfl rfl] at between
          simp at between
        · intro colon
          obtain ⟨front, rfl⟩ := List.getLast?_eq_some_iff.mp colon
          rw [Run.characters, List.append_assoc, List.singleton_append] at allowed
          have between := (Bool.or_eq_false_iff.mp (interruptsAfter_of_append allowed)).1
          rw [Style.interrupts, behind] at between
          simp at between
      · refine induction _ ?_ (interruptsAfter_of_append allowed) later
        intro next head word
        have gap : run.isWord = false := by
          rw [changes next head] at word
          simpa using word
        exact Run.getLastD_isSeparator proper gap previous

theorem joined_of_words :
    ∀ {runs : List Run},
      Alternates runs →
      (∀ characters, .breaks characters ∉ runs) →
      (∀ characters, .word characters ∈ runs → IsPlainWord characters) →
      (∃ characters, runs.head? = some (.word characters)) →
      (∃ characters, runs.getLast? = some (.word characters)) →
      Joined runs
  | [.word characters], _, _, plain, _, _ => .word (plain _ (by simp))
  | .word characters :: .spaces count :: rest, alternates, unbroken, plain, _, last => by
      obtain ⟨-, -, later⟩ := alternates.head
      obtain ⟨positive, changes, later⟩ := later.head
      refine .cons (plain _ (by simp)) positive (joined_of_words later ?_ ?_ ?_ ?_)
      · intro others member
        exact unbroken others (by simp [member])
      · intro others member
        exact plain others (by simp [member])
      · cases rest with
        | nil => simp at last
        | cons run rest =>
            have word := changes run rfl
            cases run with
            | word characters => exact ⟨characters, rfl⟩
            | spaces | breaks => contradiction
      · cases rest with
        | nil => simp at last
        | cons run rest => simpa using last
  | .word _ :: .word _ :: _, alternates, _, _, _, _ =>
      absurd (alternates.head.2.1 _ rfl) (by simp [Run.isWord])
  | .word _ :: .breaks characters :: _, _, unbroken, _, _, _ =>
      absurd (by simp) (unbroken characters)

/-- The runs of a text that is written plainly are joined words. -/
theorem joined_runs
    {text : List Char}
    (allowed : Style.allowsPlain text = true) :
    Joined (runs text) := by
  simp only [Style.allowsPlain, Style.hasAtEnd, Bool.and_eq_true, Bool.not_eq_true',
    Bool.or_eq_false_iff, Option.any_eq_false, Style.isSpace, beq_iff_eq] at allowed
  obtain ⟨⟨⟨⟨single, unbroken⟩, unspaced, unspacedLast⟩, noIndicators⟩, tag⟩ := allowed
  have alternates := alternates_runs single
  have whole := flatMap_runs text
  have filled : text ≠ [] := by
    rintro rfl
    exact absurd tag (by decide)
  have noBreaks : ∀ characters, .breaks characters ∉ runs text := by
    intro characters member
    have proper := alternates.isProper _ member
    obtain ⟨character, later, rfl⟩ := List.exists_cons_of_ne_nil proper.1
    have inside : character ∈ text := by
      rw [← whole]
      exact List.mem_flatMap.mpr ⟨_, member, List.mem_cons_self⟩
    have breaks := proper.2 _ List.mem_cons_self
    rw [List.any_eq_false] at unbroken
    exact unbroken character inside breaks
  refine joined_of_words alternates noBreaks ?_ ?_ ?_
  · intro characters member
    refine isPlainWord_of_mem alternates ' ' (fun _ _ _ => rfl) ?_ member
    rw [whole]
    exact interruptsAfter_space noIndicators
  · cases first : runs text with
    | nil => rw [first] at whole; exact absurd whole.symm filled
    | cons run rest =>
        rw [first] at alternates noBreaks
        cases run with
        | word characters => exact ⟨characters, rfl⟩
        | breaks characters => exact absurd List.mem_cons_self (noBreaks characters)
        | spaces count =>
            obtain ⟨character, member, head⟩ := head?_of_runs first alternates.head.1
            have other := unspaced character head
            rw [List.eq_of_mem_replicate member] at other
            contradiction
  · cases last : (runs text).getLast? with
    | none => rw [List.getLast?_eq_none_iff.mp last] at whole; exact absurd whole.symm filled
    | some run =>
        obtain ⟨front, split⟩ := List.getLast?_eq_some_iff.mp last
        have proper := alternates.isProper run (List.mem_of_getLast? last)
        cases run with
        | word characters => exact ⟨characters, rfl⟩
        | breaks characters => exact absurd (List.mem_of_getLast? last) (noBreaks characters)
        | spaces count =>
            obtain ⟨count, rfl⟩ := Nat.exists_eq_add_of_lt proper
            rw [split, List.flatMap_append, List.flatMap_singleton, Run.characters, Nat.zero_add,
              List.replicate_succ', ← List.append_assoc] at whole
            have other := unspacedLast ' ' (by rw [← whole, List.getLast?_concat])
            contradiction

end Written

end Delimit.Yaml
