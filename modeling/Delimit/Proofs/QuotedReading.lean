import Delimit.Proofs.CursorMoves
import Delimit.Yaml.Token.Flow
import Delimit.Yaml.Token.Plain

/-!
# Reading quoted scalars

A quoted scalar is read piece by piece, and what a piece stands for depends only on
its characters and on the one behind it.  So a text is read back from its written
form if the written form divides into pieces that stand for the parts of the text,
with the closing quote behind them.
-/

namespace Delimit.Yaml.Flow

/-- Some characters are a piece in front of others, and stand for a text. -/
def ReadsAs
    (style : Style)
    (taken rest text : List Char) :
    Prop :=
  ∀ cursor : Cursor,
    cursor.rest = taken ++ rest →
      piece style cursor = .ok (some text, cursor.advance taken.length)

/-- Characters that spell a text and the closing quote, in front of a tail. -/
inductive Spells
    (style : Style)
    (tail : List Char) :
    List Char →
    List Char →
    Prop where
  /-- A single quote closes a text unless another one follows. -/
  | closes :
      (style = .single → tail.head? ≠ some '\'') →
      Spells style tail (style.quote :: tail) []
  | piece
      (taken text : List Char)
      {rest later : List Char} :
      taken ≠ [] →
      ReadsAs style taken rest text →
      Spells style tail rest later →
      Spells style tail (taken ++ rest) (text ++ later)

theorem Spells.length_lt
    {style : Style}
    {tail written text : List Char}
    (spells : Spells style tail written text) :
    tail.length < written.length := by
  induction spells with
  | closes => exact Nat.lt_succ_self _
  | piece _ _ _ _ _ induction =>
      rw [List.length_append]
      omega

theorem piece_quote
    {style : Style}
    {tail : List Char}
    (alone : style = .single → tail.head? ≠ some '\'')
    {cursor : Cursor}
    (next : cursor.rest = style.quote :: tail) :
    piece style cursor = .ok (none, cursor.advance 1) := by
  unfold piece
  rw [next]
  cases style with
  | single =>
      have separate : cursor.ahead? 1 ≠ some '\'' := by
        rw [Cursor.ahead?, next, List.getElem?_cons_succ, ← List.head?_eq_getElem?]
        exact alone rfl
      simp [Style.quote, isSeparator, isSpaceOrTab, isBreak, separate]
  | double => simp [Style.quote, isSeparator, isSpaceOrTab, isBreak]

theorem Spells.pieces
    {style : Style}
    {tail written text : List Char}
    (spells : Spells style tail written text)
    {fuel : Nat}
    (enough : written.length < fuel)
    {cursor : Cursor}
    (next : cursor.rest = written) :
    ∃ behind,
      pieces style fuel cursor = .ok (text, behind) ∧ behind.rest = tail := by
  induction spells generalizing fuel cursor with
  | closes alone =>
      obtain ⟨fuel, rfl⟩ := Nat.exists_eq_add_of_lt enough
      refine ⟨cursor.advance 1, ?_, by rw [Cursor.rest_advance, next]; rfl⟩
      rw [Flow.pieces, piece_quote alone next]
      rfl
  | @piece taken text rest later taking reads _ induction =>
      obtain ⟨fuel, rfl⟩ := Nat.exists_eq_add_of_lt enough
      have positive : 0 < taken.length := List.length_pos_iff.mpr taking
      obtain ⟨behind, read, ends⟩ := @induction ((taken ++ rest).length + fuel)
        (by rw [List.length_append]; omega) _ (Cursor.rest_advance_length next)
      refine ⟨behind, ?_, ends⟩
      rw [Flow.pieces, reads cursor next]
      simp only [bind, Except.bind, pure, Except.pure, read]

/-- The reading of a quoted scalar ends behind its closing quote, with the text it spells. -/
theorem Spells.read
    {style : Style}
    {tail written text : List Char}
    (spells : Spells style tail written text)
    {cursor : Cursor}
    (next : cursor.rest = style.quote :: written) :
    ∃ behind,
      Flow.read style cursor = .ok (text, behind) ∧ behind.rest = tail := by
  have inside : (cursor.advance 1).rest = written := by
    rw [Cursor.rest_advance, next, List.drop_one, List.tail_cons]
  exact spells.pieces (by rw [inside]; exact Nat.lt_succ_self _) inside

/-! ## Pieces of one character -/

theorem readsAs_character
    (style : Style)
    {character : Char}
    (inner : isSeparator character = false)
    (other : character ≠ style.quote)
    (literal : style = .double → character ≠ '\\')
    (rest : List Char) :
    ReadsAs style [character] rest [character] := by
  intro cursor next
  unfold piece
  rw [next]
  cases style with
  | single =>
      have other : character ≠ '\'' := other
      simp [inner, other]
  | double =>
      have other : character ≠ '"' := other
      simp [inner, other, literal rfl]

theorem readsAs_quoteTwice
    (rest : List Char) :
    ReadsAs .single ['\'', '\''] rest ['\''] := by
  intro cursor next
  have again : cursor.ahead? 1 = some '\'' := by
    rw [Cursor.ahead?, next]
    rfl
  unfold piece
  rw [next]
  simp [isSeparator, isSpaceOrTab, isBreak, again]

/-! ## Blanks and line breaks -/

/-- A text begins with a character that is no blank and no line break. -/
def BeginsInside
    (text : List Char) :
    Prop :=
  ∃ character rest, text = character :: rest ∧ isSeparator character = false

theorem readsAs_spaces
    (style : Style)
    {count : Nat}
    (positive : 0 < count)
    {rest : List Char}
    (inside : BeginsInside rest) :
    ReadsAs style (List.replicate count ' ') rest (List.replicate count ' ') := by
  obtain ⟨character, later, rfl, inner⟩ := inside
  intro cursor next
  have inner' : isSpaceOrTab character = false ∧ isBreak character = false := by
    simpa [isSeparator] using inner
  have spans := Cursor.spanWhile_eq isSpaceOrTab
    (fun other member => by rw [List.eq_of_mem_replicate member]; rfl)
    (by simpa using inner'.1) next
  have behind : (cursor.advance (List.replicate count ' ').length).rest =
      character :: later :=
    Cursor.rest_advance_length next
  have unbroken : (cursor.advance (List.replicate count ' ').length).lineBreak? = none :=
    Cursor.lineBreak?_eq_none (by rw [behind]; simpa using inner'.2)
  have gap : gap cursor =
      .ok (List.replicate count ' ', cursor.advance (List.replicate count ' ').length) := by
    unfold gap
    rw [spans]
    dsimp only
    rw [behind, unbroken]
  obtain ⟨count, rfl⟩ := Nat.exists_eq_add_of_lt positive
  rw [Nat.zero_add] at next
  unfold piece
  rw [next, List.replicate_succ, List.cons_append]
  dsimp only
  rw [if_pos (by rfl), gap]
  rfl

theorem blankLines_spaces
    (count : Nat)
    {rest : List Char}
    (inside : BeginsInside rest) :
    blankLines false (List.replicate count ' ' ++ rest) = .ok ([], count) := by
  induction count with
  | zero =>
      obtain ⟨character, later, rfl, inner⟩ := inside
      have ⟨blank, breaks⟩ : isSpaceOrTab character = false ∧ isBreak character = false := by
        simpa [isSeparator] using inner
      simp [blankLines, blank, breaks]
  | succ count induction =>
      rw [List.replicate_succ, List.cons_append, blankLines, if_neg (by simp)]
      dsimp only
      rw [if_pos (by rfl), induction]
      rfl

theorem startsWithDocumentMark_space
    (rest : List Char) :
    startsWithDocumentMark (' ' :: rest) = false := rfl

theorem startsWithDocumentMark_break
    {character : Char}
    (breaks : isBreak character = true)
    (rest : List Char) :
    startsWithDocumentMark (character :: rest) = false := by
  unfold startsWithDocumentMark
  split
  · rename_i equality
    rw [(List.cons.inj equality).1] at breaks
    exact absurd breaks (by decide)
  · rename_i equality
    rw [(List.cons.inj equality).1] at breaks
    exact absurd breaks (by decide)
  · rfl

theorem not_isSpaceOrTab_of_isBreak
    {character : Char}
    (breaks : isBreak character = true) :
    isSpaceOrTab character = false := by
  simp only [isBreak, Bool.or_eq_true, beq_iff_eq] at breaks
  rcases breaks with ((rfl | rfl) | rfl) | rfl <;> decide

/-- Line breaks are read up to the indented line behind them. -/
theorem blankLines_breaks
    (breaks : List Char)
    (breaking : ∀ character ∈ breaks, isBreak character = true)
    {indent : Nat}
    (indented : 0 < indent)
    {rest : List Char}
    (inside : BeginsInside rest) :
    blankLines true (breaks ++ (List.replicate indent ' ' ++ rest)) =
      .ok (breaks.map unifiedBreak, breaks.length + indent) := by
  induction breaks with
  | nil =>
      obtain ⟨indent, rfl⟩ := Nat.exists_eq_add_of_lt indented
      rw [Nat.zero_add, List.nil_append, List.replicate_succ, List.cons_append, blankLines,
        startsWithDocumentMark_space, Bool.and_false, if_neg (by simp)]
      dsimp only
      rw [if_pos (by rfl), blankLines_spaces indent inside]
      simp [bind, Except.bind, pure, Except.pure]
  | cons character breaks induction =>
      have here := breaking character List.mem_cons_self
      rw [List.cons_append, blankLines, startsWithDocumentMark_break here, Bool.and_false,
        if_neg (by simp)]
      dsimp only
      rw [if_neg (by simp [not_isSpaceOrTab_of_isBreak here]), if_pos here,
        induction fun other member => breaking other (List.mem_cons_of_mem _ member)]
      simp only [bind, Except.bind, pure, Except.pure, List.map_cons, List.length_cons]
      rw [Nat.add_right_comm]

/-- Line breaks and an indentation stand for the breaks folded into one text. -/
theorem readsAs_breaks
    (style : Style)
    {first : Char}
    (breaks : isBreak first = true)
    {later : List Char}
    (breaking : ∀ character ∈ later, isBreak character = true)
    {indent : Nat}
    (indented : 0 < indent)
    {rest : List Char}
    (inside : BeginsInside rest) :
    ReadsAs style (first :: (later ++ List.replicate indent ' ')) rest
      (Plain.foldedBreaks (unifiedBreak first) (later.map unifiedBreak)) := by
  intro cursor next
  rw [List.cons_append, List.append_assoc] at next
  have unspaced : cursor.spanWhile isSpaceOrTab = ([], cursor) :=
    Cursor.spanWhile_eq isSpaceOrTab (fun _ member => absurd member List.not_mem_nil)
      (by simpa using not_isSpaceOrTab_of_isBreak breaks) next
  have behind : (cursor.advance 1).rest = later ++ (List.replicate indent ' ' ++ rest) := by
    rw [Cursor.rest_advance, next, List.drop_one, List.tail_cons]
  have gap : gap cursor =
      .ok (Plain.foldedBreaks (unifiedBreak first) (later.map unifiedBreak),
        cursor.advance (1 + (later.length + indent))) := by
    unfold gap
    rw [unspaced]
    dsimp only
    rw [next, Cursor.lineBreak?_eq_some next breaks]
    dsimp only
    rw [behind, blankLines_breaks later breaking indented inside, Cursor.advance_add]
    rfl
  unfold piece
  rw [next]
  dsimp only
  rw [if_pos (by simp [isSeparator, breaks]), gap]
  simp only [bind, Except.bind, pure, Except.pure, List.length_cons, List.length_append,
    List.length_replicate]
  rw [Nat.add_comm 1]

/-! ## Escapes -/

theorem piece_backslash
    {cursor : Cursor}
    {rest : List Char}
    (next : cursor.rest = '\\' :: rest) :
    piece .double cursor = do
      let (text, cursor) ← escape (cursor.advance 1)
      return (some text, cursor) := by
  unfold piece
  rw [next]
  simp [isSeparator, isSpaceOrTab, isBreak]

theorem readsAs_named
    {letter character : Char}
    (named : namedEscape? letter = some character)
    (rest : List Char) :
    ReadsAs .double ['\\', letter] rest [character] := by
  intro cursor next
  have behind : (cursor.advance 1).rest = letter :: rest := by
    rw [Cursor.rest_advance, next]
    rfl
  rw [piece_backslash next]
  unfold escape
  rw [behind]
  dsimp only
  rw [named]
  dsimp only
  rw [← Cursor.advance_add]
  rfl

theorem readsAs_numbered
    {letter : Char}
    (unnamed : namedEscape? letter = none)
    {length : Nat}
    (coded : codeLength? letter = some length)
    {digits : List Char}
    (complete : digits.length = length)
    {character : Char}
    {rest : List Char}
    (number : numberedEscape letter length (digits ++ rest) = .ok (character, length)) :
    ReadsAs .double ('\\' :: letter :: digits) rest [character] := by
  intro cursor next
  have behind : (cursor.advance 1).rest = letter :: (digits ++ rest) := by
    rw [Cursor.rest_advance, next]
    rfl
  rw [piece_backslash next]
  unfold escape
  rw [behind]
  dsimp only
  rw [unnamed]
  dsimp only
  rw [coded]
  dsimp only
  rw [number]
  simp only [bind, Except.bind, pure, Except.pure, List.length_cons, complete]
  rw [← Cursor.advance_add, ← Nat.add_assoc, Nat.add_comm]

/-- A backslash before a line break takes the break and the indentation away. -/
theorem readsAs_joined
    {indent : Nat}
    (indented : 0 < indent)
    {rest : List Char}
    (inside : BeginsInside rest) :
    ReadsAs .double ('\\' :: '\n' :: List.replicate indent ' ') rest [] := by
  intro cursor next
  have behind : (cursor.advance 1).rest = '\n' :: (List.replicate indent ' ' ++ rest) := by
    rw [Cursor.rest_advance, next]
    rfl
  have below : ((cursor.advance 1).advance 1).rest = List.replicate indent ' ' ++ rest := by
    rw [Cursor.rest_advance, behind]
    rfl
  have blank := blankLines_breaks [] (fun _ member => absurd member List.not_mem_nil)
    indented inside
  rw [List.nil_append, List.map_nil, List.length_nil, Nat.zero_add] at blank
  rw [piece_backslash next]
  unfold escape
  rw [behind]
  have unnamed : namedEscape? '\n' = none := rfl
  have uncoded : codeLength? '\n' = none := rfl
  simp only [unnamed, uncoded]
  rw [if_pos (by rfl), below, blank]
  simp only [bind, Except.bind, pure, Except.pure, List.length_cons, List.length_replicate]
  rw [← Cursor.advance_add, ← Cursor.advance_add, Nat.add_comm 1 indent, Nat.add_comm 1]

end Delimit.Yaml.Flow
