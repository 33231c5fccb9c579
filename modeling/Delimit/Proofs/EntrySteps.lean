import Delimit.Proofs.ReaderSteps

/-!
# Entries of block mappings

A key is read as a plain scalar first, and its colon makes it a key.  The text behind
it is read back from whatever style it is written in, and the reader stands in front
of the next line then.
-/

namespace Delimit.Yaml.Reader

open Delimit.Yaml.Flow (BeginsInside)
open Written (Run IsPlainWord Joined plainRuns runs readBack)

/-! ## Plain scalars -/

theorem leadingIndicators_eq :
    Style.leadingIndicators =
      ['#', ',', '[', ']', '\x7b', '\x7d', '&', '*', '!', '|', '>', '\'', '"', '%', '@',
        '\x60'] := rfl

theorem isIndicator_eq
    (character : Char) :
    isIndicator character =
      ['-', '?', ':', ',', '[', ']', '\x7b', '\x7d', '#', '&', '*', '!', '|', '>', '\'', '"',
        '%', '@', '\x60'].contains character := rfl

/-- Where a plain scalar begins, no other token does. -/
theorem readFrom_plain
    {reader : Reader}
    (outside : reader.inFlow = false)
    {character : Char}
    (inner : isSeparator character = false)
    (leads : Style.leadsBadly character (reader.cursor.ahead? 1) = false)
    (placed : reader.cursor.column = 0 → character ≠ '-' ∧ character ≠ '.') :
    reader.readFrom character = reader.readPlainScalar := by
  simp only [Style.leadsBadly, Bool.or_eq_false_iff, leadingIndicators_eq] at leads
  obtain ⟨noIndicator, noMark⟩ := leads
  simp only [List.contains_eq_mem, List.mem_cons, List.not_mem_nil, or_false,
    decide_eq_false_iff_not, not_or] at noIndicator
  have noDash : (character == '-' &&
      (reader.cursor.column == 0 && startsWithDocumentMark reader.cursor.rest)) = false := by
    by_cases line : reader.cursor.column = 0
    · simp [(placed line).1]
    · simp [line]
  have noDot : (character == '.' &&
      (reader.cursor.column == 0 && startsWithDocumentMark reader.cursor.rest)) = false := by
    by_cases line : reader.cursor.column = 0
    · simp [(placed line).2]
    · simp [line]
  simp only [Bool.and_eq_false_imp, Bool.or_eq_true, beq_iff_eq] at noMark
  have begins : beginsPlain false character (reader.cursor.ahead? 1) = true := by
    rw [beginsPlain, inner, isIndicator_eq]
    by_cases mark : (character = '?' ∨ character = ':') ∨ character = '-'
    · rw [noMark mark]
      rcases mark with (rfl | rfl) | rfl <;> rfl
    · simp only [not_or] at mark
      simp [noIndicator, mark]
  have noEntry : ¬ (character = '-' ∧ endsWord (reader.cursor.ahead? 1) = true) :=
    fun both => by simp [noMark (.inr both.1)] at both
  have noKey : ¬ (character = '?' ∧ endsWord (reader.cursor.ahead? 1) = true) :=
    fun both => by simp [noMark (.inl (.inl both.1))] at both
  have noValue : ¬ (character = ':' ∧ endsWord (reader.cursor.ahead? 1) = true) :=
    fun both => by simp [noMark (.inl (.inr both.1))] at both
  unfold readFrom
  rw [outside]
  simp only [Bool.false_or, Bool.not_false, Bool.and_true, noDash, noDot, begins]
  simp [noIndicator, noEntry, noKey, noValue]

theorem leadsBadly_of_endsWord
    {character : Char}
    {next other : Option Char}
    (allowed : Style.leadsBadly character next = false)
    (ends : endsWord other = true → endsWord next = true) :
    Style.leadsBadly character other = false := by
  simp only [Style.leadsBadly, Bool.or_eq_false_iff, Bool.and_eq_false_imp] at allowed ⊢
  refine ⟨allowed.1, fun mark => ?_⟩
  by_contra goesOn
  have closed := allowed.2 mark
  rw [ends (by simpa using goesOn)] at closed
  contradiction

/-- A plain text begins, as it is written, in a way in which no other token does. -/
theorem leadsBadly_plainRuns
    {runs : List Run}
    (joined : Joined runs)
    (allowed : Style.hasIndicators (runs.flatMap Run.characters) = false)
    (indent column : Nat)
    (after : List Char) :
    ∃ character rest,
      plainRuns indent runs column ++ after = character :: rest ∧
        isSeparator character = false ∧ character ≠ '#' ∧
          Style.leadsBadly character rest.head? = false := by
  have first :
      ∀ (characters behind written : List Char),
        IsPlainWord characters →
        Style.hasIndicators (characters ++ behind) = false →
        endsWord behind.head? = true →
        ∃ character rest,
          characters ++ written = character :: rest ∧
            isSeparator character = false ∧ character ≠ '#' ∧
              Style.leadsBadly character rest.head? = false := by
    intro characters behind written plain allowed ends
    obtain ⟨character, later, rfl⟩ := List.exists_cons_of_ne_nil plain.filled
    refine ⟨character, later ++ written, rfl, plain.inner _ List.mem_cons_self,
      fun hash => plain.noHash (congrArg some hash), ?_⟩
    simp only [List.cons_append, Style.hasIndicators, Bool.or_eq_false_iff] at allowed
    refine leadsBadly_of_endsWord allowed.1.2 fun goesOn => ?_
    cases later with
    | nil => exact ends
    | cons next later =>
        have inner := plain.inner next (by simp)
        exact absurd goesOn (by simp [endsWord, inner])
  cases joined with
  | @word characters plain =>
      rw [List.flatMap_singleton] at allowed
      obtain ⟨character, rest, written, begins⟩ :=
        first characters [] after plain (by rwa [List.append_nil]) rfl
      exact ⟨character, rest, by rw [← written]; exact congrArg (· ++ after) (List.append_nil _),
        begins⟩
  | @cons characters count rest plain positive joined =>
      rw [List.flatMap_cons] at allowed
      rw [Plain.plainRuns_cons, List.append_assoc]
      refine first characters _ _ plain allowed ?_
      obtain ⟨count, rfl⟩ := Nat.exists_eq_add_of_lt positive
      rw [Nat.zero_add]
      rfl

/-! ## Values -/

/-- The text from a line on goes on with a token, and not with the mark of a document. -/
structure LineGoesOn
    (count : Nat)
    (rest : List Char) :
    Prop where
  atToken : AtToken rest
  unmarked : startsWithDocumentMark (List.replicate count ' ' ++ rest) = false
  noOrderMark : rest.head? ≠ some '\uFEFF'

/-- A reader stands at the first token of a line. -/
def AtLine
    (reader : Reader)
    (tokens : List Token)
    (indent : Int)
    (outer : List Int)
    (column : Nat)
    (rest : List Char) :
    Prop :=
  ∃ cursor : Cursor,
    reader.skipIdle = block cursor tokens indent outer true ∧
      cursor.rest = rest ∧ cursor.column = column

/-- A reader stands behind the colon of a key. -/
def AtValue
    (reader : Reader)
    (tokens : List Token)
    (indent : Nat)
    (outer : List Int)
    (rest : List Char) :
    Prop :=
  ∃ cursor : Cursor,
    reader = block cursor tokens indent outer false ∧
      cursor.rest = rest ∧ indent ≤ cursor.column

theorem atLine_newLine
    {cursor : Cursor}
    (tokens : List Token)
    (indent : Int)
    (outer : List Int)
    (allowsKey : Bool)
    {count : Nat}
    {rest : List Char}
    (goesOn : LineGoesOn count rest)
    (next : cursor.rest = '\n' :: (List.replicate count ' ' ++ rest)) :
    AtLine (block cursor tokens indent outer allowsKey) tokens indent outer count rest := by
  have broken : isBreak '\n' = true := rfl
  refine ⟨cursor.advance (count + 1), skipIdle_newLine tokens count allowsKey goesOn.atToken next,
    ?_, Cursor.column_advance_newLine broken count next⟩
  rw [Cursor.rest_advance, next, List.drop_succ_cons]
  exact List.drop_left' List.length_replicate

/-- Behind the space in front of a value, the reader reads the token of the value. -/
theorem readNext_value
    {reader : Reader}
    {tokens : List Token}
    {indent : Nat}
    {outer : List Int}
    {character : Char}
    {rest : List Char}
    (inner : isSeparator character = false)
    (noHash : character ≠ '#')
    (atValue : AtValue reader tokens indent outer (' ' :: character :: rest)) :
    ∃ cursor : Cursor,
      reader.readNext = (block cursor tokens indent outer false).readFrom character ∧
        cursor.rest = character :: rest ∧
          (indent : Int) + 1 ≤ cursor.column ∧
            reader.cursor.rest = ' ' :: cursor.rest := by
  obtain ⟨cursor, rfl, next, inside⟩ := atValue
  have atToken : AtToken (character :: rest) := by
    intro other head
    rw [← Option.some.inj head]
    exact ⟨inner, noHash⟩
  have behind : (cursor.advance 1).rest = character :: rest := by
    rw [Cursor.rest_advance, next]
    rfl
  have column : (cursor.advance 1).column = cursor.column + 1 :=
    Cursor.column_advance_spaces 1 next
  have within : (indent : Int) + 1 ≤ (cursor.advance 1).column := by omega
  refine ⟨cursor.advance 1, ?_, behind, within, by rw [behind]; exact next⟩
  rw [readNext_eq (skipIdle_space tokens false atToken next) rfl behind,
    unwindIndent_of_le (by rw [indent_block, cursor_block]; omega)]

/-- A reader inside one flow collection. -/
def inBrackets
    (cursor : Cursor)
    (tokens : List Token)
    (indent : Int)
    (outer : List Int) :
    Reader :=
  { block cursor tokens indent outer true with flowLevel := 1 }

theorem readPlainScalar_block
    (cursor : Cursor)
    (tokens : List Token)
    (indent : Int)
    (outer : List Int) :
    (block cursor tokens indent outer false).readPlainScalar =
      .ok (block (Plain.read false (indent + 1) cursor).cursor
        (.scalar true (Plain.read false (indent + 1) cursor).text :: tokens) indent outer
        (Plain.read false (indent + 1) cursor).broken) := rfl

section

variable
    {reader : Reader}
    {tokens : List Token}
    {indent deeper : Nat}
    {outer : List Int}
    {count : Nat}
    {tail : List Char}

/-- Joined words behind a key are read as a plain scalar. -/
theorem steps_plain
    (deep : indent < deeper)
    (level : count ≤ indent)
    (goesOn : LineGoesOn count tail)
    {runs : List Run}
    (joined : Joined runs)
    (allowed : Style.hasIndicators (runs.flatMap Run.characters) = false)
    (column : Nat)
    (atValue : AtValue reader tokens indent outer
      (' ' :: (plainRuns deeper runs column ++
        '\n' :: (List.replicate count ' ' ++ tail)))) :
    ∃ next,
      Steps reader next ∧
        AtLine next (.scalar true (runs.flatMap Run.characters) :: tokens) indent outer
          count tail := by
  obtain ⟨character, rest, begins, inner, noHash, leads⟩ :=
    leadsBadly_plainRuns joined allowed deeper column
      ('\n' :: (List.replicate count ' ' ++ tail))
  rw [begins] at atValue
  obtain ⟨cursor, read, next, inside, whole⟩ := readNext_value inner noHash atValue
  have stops : Plain.Stops ((indent : Int) + 1)
      ('\n' :: (List.replicate count ' ' ++ tail)) (count + 1) true :=
    Plain.stops_newLine (by omega) (fun other head => (goesOn.atToken other head).1)
      goesOn.unmarked
  have second : cursor.ahead? 1 = rest.head? := by
    rw [Cursor.ahead?, next, List.getElem?_cons_succ, List.head?_eq_getElem?]
  rw [readFrom_plain (inFlow_block ..) inner (by rw [cursor_block, second]; exact leads)
    (fun line => by rw [cursor_block] at line; omega)] at read
  rw [← begins] at next
  have scalar : Plain.read false ((indent : Int) + 1) cursor =
      ⟨runs.flatMap Run.characters,
        cursor.advance ((plainRuns deeper runs column).length + (count + 1)), true⟩ := by
    have leastInside : (indent : Int) + 1 ≤ deeper := by omega
    exact Plain.pieces_joined (Nat.zero_lt_of_lt deep) leastInside stops joined column inside next
      (by rw [next, List.length_append]; omega)
  have behind : (cursor.advance
      ((plainRuns deeper runs column).length + (count + 1))).rest = tail := by
    rw [Cursor.advance_add, Cursor.rest_advance, Cursor.rest_advance_length next,
      List.drop_succ_cons]
    exact List.drop_left' List.length_replicate
  have result : reader.readNext = .ok
      (block (cursor.advance ((plainRuns deeper runs column).length + (count + 1)))
        (.scalar true (runs.flatMap Run.characters) :: tokens) indent outer true) := by
    rw [read, readPlainScalar_block, scalar]
  refine ⟨_, .single ⟨result, rfl, ?_⟩, _, skipIdle_of_atToken ?_ ?_, behind, ?_⟩
  · rw [cursor_block, behind, whole, next]
    simp only [List.length_append, List.length_cons]
    omega
  · rw [cursor_block, behind]
    exact goesOn.atToken
  · rw [cursor_block, Cursor.peek?, behind]
    exact goesOn.noOrderMark
  · rw [Cursor.advance_add]
    have broken : isBreak '\n' = true := rfl
    exact Cursor.column_advance_newLine broken count (Cursor.rest_advance_length next)

/-- What spells a text between quotes behind a key is read as that text. -/
theorem steps_quoted
    (goesOn : LineGoesOn count tail)
    {style : Flow.Style}
    {written text : List Char}
    (spells : Flow.Spells style ('\n' :: (List.replicate count ' ' ++ tail)) written text)
    (atValue : AtValue reader tokens indent outer (' ' :: style.quote :: written)) :
    ∃ next,
      Steps reader next ∧
        AtLine next (.scalar false text :: tokens) indent outer count tail := by
  have inner : isSeparator style.quote = false := by cases style <;> rfl
  have noHash : style.quote ≠ '#' := by cases style <;> decide
  obtain ⟨cursor, read, next, -, whole⟩ := readNext_value inner noHash atValue
  obtain ⟨behind, scalar, rest⟩ := spells.read next
  have quoted : (block cursor tokens indent outer false).readFrom style.quote =
      (block cursor tokens indent outer false).readQuotedScalar style := by
    cases style <;> simp [readFrom, Flow.Style.quote]
  have result : reader.readNext =
      .ok (block behind (.scalar false text :: tokens) indent outer false) := by
    rw [read, quoted]
    unfold readQuotedScalar
    change (Flow.read style cursor >>= _) = _
    rw [scalar]
    rfl
  refine ⟨_, .single ⟨result, rfl, ?_⟩, atLine_newLine _ _ _ _ goesOn rest⟩
  rw [cursor_block, rest, whole, next]
  exact Nat.lt_succ_of_lt (Nat.lt_succ_of_lt spells.length_lt)

/-- A text behind a key is read back, whatever style it is written in. -/
theorem steps_value
    (deep : indent < deeper)
    (narrow : deeper + 1 ≤ Written.lineWidth)
    (level : count ≤ indent)
    (goesOn : LineGoesOn count tail)
    (column : Nat)
    (text : List Char)
    (atValue : AtValue reader tokens indent outer
      (Written.value deeper column text ++ '\n' :: (List.replicate count ' ' ++ tail))) :
    ∃ next,
      Steps reader next ∧
        AtLine next
          (.scalar (Style.ofText text == .plain) (readBack text) :: tokens) indent outer
          count tail := by
  have deeperPositive : 0 < deeper := Nat.zero_lt_of_lt deep
  have alone : ('\n' :: (List.replicate count ' ' ++ tail)).head? ≠ some '\'' := by simp
  unfold Written.value at atValue
  unfold readBack
  cases style : Style.ofText text with
  | plain =>
      rw [style] at atValue
      have allowed := Written.allowsPlain_of_ofText style
      have noIndicators : Style.hasIndicators text = false := by
        simp only [Style.allowsPlain, Bool.and_eq_true, Bool.not_eq_true'] at allowed
        exact allowed.1.2
      have whole := Written.flatMap_runs text
      have steps := steps_plain deep level goesOn (Written.joined_runs allowed)
        (by rw [whole]; exact noIndicators) (column + 1) atValue
      rwa [whole] at steps
  | single =>
      rw [style] at atValue
      have alternates := Written.alternates_runs (Written.allowsSingle_of_ofText style)
      exact steps_quoted goesOn
        (Written.spells_singleRuns deeperPositive alone alternates true (column + 2)) atValue
  | double =>
      rw [style] at atValue
      exact steps_quoted goesOn
        (Written.spells_doubleRest deeperPositive narrow text true (column + 2)) atValue

/-- An empty flow sequence behind a key is read as its two brackets. -/
theorem steps_brackets
    (goesOn : LineGoesOn count tail)
    (atValue : AtValue reader tokens indent outer
      (' ' :: '[' :: ']' :: '\n' :: (List.replicate count ' ' ++ tail))) :
    ∃ next,
      Steps reader next ∧
        AtLine next (.flowSequenceEnd :: .flowSequenceStart :: tokens) indent outer
          count tail := by
  obtain ⟨cursor, read, next, -, whole⟩ := readNext_value rfl (by decide) atValue
  have inside : (cursor.advance 1).rest = ']' :: '\n' :: (List.replicate count ' ' ++ tail) := by
    rw [Cursor.rest_advance, next]
    rfl
  have behind : ((cursor.advance 1).advance 1).rest =
      '\n' :: (List.replicate count ' ' ++ tail) := by
    rw [Cursor.rest_advance, inside]
    rfl
  have opened : reader.readNext =
      .ok (inBrackets (cursor.advance 1) (.flowSequenceStart :: tokens) indent outer) := by
    rw [read]
    simp only [readFrom, cursor_block]
    rfl
  have closed :
      (inBrackets (cursor.advance 1) (.flowSequenceStart :: tokens) indent outer).readNext =
        .ok (block ((cursor.advance 1).advance 1)
          (.flowSequenceEnd :: .flowSequenceStart :: tokens) indent outer false) := by
    have atToken : AtToken (cursor.advance 1).rest := by
      intro other head
      rw [inside] at head
      rw [← Option.some.inj head]
      decide
    have unmarked : (cursor.advance 1).peek? ≠ some '\uFEFF' := by
      rw [Cursor.peek?, inside]
      simp
    rw [readNext_eq (skipIdle_of_atToken atToken unmarked) rfl inside]
    rfl
  refine ⟨_, .tail (.single ⟨opened, rfl, ?_⟩) ⟨closed, rfl, ?_⟩,
    atLine_newLine _ _ _ _ goesOn behind⟩
  · rw [whole, next]
    change (cursor.advance 1).rest.length < _
    rw [inside]
    exact Nat.lt_succ_of_lt (Nat.lt_succ_self _)
  · rw [cursor_block, behind]
    change _ < (cursor.advance 1).rest.length
    rw [inside]
    exact Nat.lt_succ_self _

end

/-! ## Keys -/

def isKeyPart
    (character : Char) :
    Bool :=
  character.isAlpha || character == '-'

/-- A name of letters and hyphens that begins with a letter, short enough for a key. -/
def isKeyName
    (name : List Char) :
    Bool :=
  name.head?.any Char.isAlpha && name.all isKeyPart && name.length ≤ keyReach

/-- A class of characters without blanks and line breaks. -/
theorem isSeparator_of_class
    (test : Char → Bool)
    (excluded : [' ', '\t', '\n', '\u0085', '\u2028', '\u2029'].any test = false)
    {character : Char}
    (member : test character = true) :
    isSeparator character = false := by
  by_contra separates
  simp only [Bool.not_eq_false, isSeparator, isSpaceOrTab, isBreak, Bool.or_eq_true,
    beq_iff_eq] at separates
  have listed : character ∈ [' ', '\t', '\n', '\u0085', '\u2028', '\u2029'] := by
    rcases separates with (rfl | rfl) | (((rfl | rfl) | rfl) | rfl) <;> decide
  exact absurd member (List.any_eq_false.mp excluded character listed)

/-- A class of characters without those that forbid the plain style in front. -/
theorem leadsBadly_of_class
    (test : Char → Bool)
    (excluded : (Style.leadingIndicators ++ ['?', ':', '-']).any test = false)
    {character : Char}
    (member : test character = true)
    (next : Option Char) :
    Style.leadsBadly character next = false := by
  have unlisted : character ∉ Style.leadingIndicators ++ ['?', ':', '-'] :=
    fun listed => List.any_eq_false.mp excluded character listed member
  simp only [List.mem_append, List.mem_cons, List.not_mem_nil, or_false, not_or] at unlisted
  obtain ⟨noIndicator, noMark⟩ := unlisted
  simp [Style.leadsBadly, noIndicator, noMark]

theorem isPlainWord_of_isKeyName
    {name : List Char}
    (key : isKeyName name = true) :
    IsPlainWord name := by
  simp only [isKeyName, Bool.and_eq_true, List.all_eq_true, decide_eq_true_eq] at key
  obtain ⟨⟨first, parts⟩, -⟩ := key
  cases name with
  | nil => contradiction
  | cons character rest =>
      refine ⟨List.cons_ne_nil _ _,
        fun other member => isSeparator_of_class isKeyPart (by decide) (parts other member), ?_, ?_⟩
      · rintro hash
        rw [Option.some.inj hash] at first
        have letter : Char.isAlpha '#' = true := first
        exact absurd letter (by decide)
      · intro colon
        have part := parts ':' (List.mem_of_getLast? colon)
        exact absurd part (by decide)

theorem isBreak_of_isKeyName
    {name : List Char}
    (key : isKeyName name = true) :
    ∀ character ∈ name, isBreak character = false :=
  fun character member =>
    (Bool.or_eq_false_iff.mp ((isPlainWord_of_isKeyName key).inner character member)).2

/-- A reader that remembers a scalar as a possible key. -/
def keyed
    (cursor : Cursor)
    (tokens : List Token)
    (indent : Int)
    (outer : List Int)
    (place : KeyPlace) :
    Reader :=
  { block cursor tokens indent outer false with keys := [(0, place)] }

/-- Where a key may begin, a plain scalar is remembered. -/
theorem readPlainScalar_keyed
    (cursor : Cursor)
    (tokens : List Token)
    (indent : Int)
    (outer : List Int)
    {text : List Char}
    {behind : Cursor}
    (scalar : Plain.read false (indent + 1) cursor = ⟨text, behind, false⟩) :
    (block cursor tokens indent outer true).readPlainScalar =
      .ok (keyed behind (.scalar true text :: tokens) indent outer
        ⟨tokens.length, indent == cursor.column, cursor⟩) := by
  change Except.ok _ = _
  change Except.ok
      { block (Plain.read false (indent + 1) cursor).cursor
          (.scalar true (Plain.read false (indent + 1) cursor).text :: tokens) indent outer
          (Plain.read false (indent + 1) cursor).broken with
        keys := [(0, ⟨tokens.length, indent == cursor.column, cursor⟩)] } = _
  rw [scalar]
  rfl

/-- The beginning of a new mapping in front of a key, if it is indented more than the one around. -/
def openingTokens
    (indent : Int)
    (column : Nat) :
    List Token :=
  if indent < column then [.blockMappingStart] else []

/-- The indentations around a mapping that a key at a column belongs to. -/
def openedAround
    (indent : Int)
    (outer : List Int)
    (column : Nat) :
    List Int :=
  if indent < column then indent :: outer else outer

/-- The colon of a key marks the scalar before it as a key. -/
theorem readValue_keyed
    (cursor : Cursor)
    (tokens : List Token)
    {indent : Int}
    (outer : List Int)
    (place : KeyPlace)
    (position : place.position = tokens.length)
    (inside : indent ≤ place.cursor.column)
    (scalar : Token) :
    (keyed cursor (scalar :: tokens) indent outer place).readValue =
      .ok (block (cursor.advance 1)
        (.value :: scalar :: .key :: (openingTokens indent place.cursor.column ++ tokens))
        place.cursor.column (openedAround indent outer place.cursor.column) false) := by
  have last : (scalar :: tokens).length - place.position = 1 := by
    rw [position, List.length_cons]
    omega
  have known : (keyed cursor (scalar :: tokens) indent outer place).key? = some place := rfl
  have forgotten : (keyed cursor (scalar :: tokens) indent outer place).forgetKey =
      block cursor (scalar :: tokens) indent outer false := rfl
  have opens : (block cursor (scalar :: tokens) indent outer false).opensAt place.cursor.column =
      decide (indent < place.cursor.column) := rfl
  unfold readValue
  rw [known]
  dsimp only
  rw [forgotten, opens, openingTokens, openedAround]
  by_cases deeper : indent < place.cursor.column
  · simp only [deeper, decide_true, ↓reduceIte]
    simp only [insertAt, pushIndent, block, last, allowing, take, emit]
    rfl
  · have level : indent = place.cursor.column := by omega
    simp only [deeper, decide_false, ↓reduceIte]
    simp only [insertAt, block, last, allowing, take, emit]
    rw [level]
    rfl

section

variable
    {cursor : Cursor}
    (tokens : List Token)
    {indent : Int}
    (outer : List Int)
    (inside : indent ≤ cursor.column)
    {name rest : List Char}
    (key : isKeyName name = true)
    (next : cursor.rest = name ++ ':' :: rest)
    (ends : endsWord rest.head? = true)

include inside key next ends

/-- The name of a key is read as a plain scalar, which is remembered. -/
theorem readNext_name
    {reader : Reader}
    (idle : reader.skipIdle = block cursor tokens indent outer true) :
    reader.readNext =
      .ok (keyed (cursor.advance name.length) (.scalar true name :: tokens) indent outer
        ⟨tokens.length, indent == cursor.column, cursor⟩) := by
  have plain := isPlainWord_of_isKeyName key
  obtain ⟨character, later, split⟩ := List.exists_cons_of_ne_nil plain.filled
  have letter : character.isAlpha = true := by
    simp only [isKeyName, Bool.and_eq_true, split, List.head?_cons, Option.any_some] at key
    exact key.1.1
  have scalar : Plain.read false (indent + 1) cursor =
      ⟨name, cursor.advance name.length, false⟩ :=
    Plain.pieces_lastWord (Plain.stops_colon _ ends) plain next _
  rw [readNext_eq idle rfl (by rw [cursor_block, next, split]; rfl),
    unwindIndent_of_le inside,
    readFrom_plain (inFlow_block ..) (isSeparator_of_class Char.isAlpha (by decide) letter)
      (leadsBadly_of_class Char.isAlpha (by decide) letter _)
      (fun _ => ⟨by rintro rfl; exact absurd letter (by decide),
        by rintro rfl; exact absurd letter (by decide)⟩),
    readPlainScalar_keyed _ _ _ _ scalar]

/-- The colon is met on the line of the name and not far from its beginning, so it marks a key. -/
theorem readNext_colon :
    (keyed (cursor.advance name.length) (.scalar true name :: tokens) indent outer
        ⟨tokens.length, indent == cursor.column, cursor⟩).readNext =
      .ok (block ((cursor.advance name.length).advance 1)
        (.value :: .scalar true name :: .key :: (openingTokens indent cursor.column ++ tokens))
        cursor.column (openedAround indent outer cursor.column) false) := by
  have short : name.length ≤ keyReach := by
    simp only [isKeyName, Bool.and_eq_true, decide_eq_true_eq] at key
    exact key.2
  obtain ⟨line, further, index⟩ := Cursor.advance_inline (isBreak_of_isKeyName key) next
  have colon := Cursor.rest_advance_length next
  have atToken : AtToken (cursor.advance name.length).rest := by
    rw [colon]
    intro other head
    rw [← Option.some.inj head]
    decide
  have unmarked : (cursor.advance name.length).peek? ≠ some '\uFEFF' := by
    rw [Cursor.peek?, colon]
    simp
  rw [readNext_eq (skipIdle_of_atToken atToken unmarked) ?_ colon, unwindIndent_of_le,
    ← readValue_keyed _ tokens outer ⟨tokens.length, indent == cursor.column, cursor⟩ rfl inside]
  · have next' : (cursor.advance name.length).ahead? 1 = rest.head? := by
      rw [Cursor.ahead?, colon, List.getElem?_cons_succ, List.head?_eq_getElem?]
    simp [readFrom, keyed, next', ends]
  · change indent ≤ ((cursor.advance name.length).column : Int)
    omega
  · simp [keyed, isStale, line, index]
    exact short

end

/-- A key and its colon are read, and open a mapping if none is open at its column. -/
theorem steps_key
    {reader : Reader}
    {tokens : List Token}
    {indent : Int}
    {outer : List Int}
    {column : Nat}
    {name rest : List Char}
    (key : isKeyName name = true)
    (inside : indent ≤ column)
    (ends : endsWord rest.head? = true)
    (atLine : AtLine reader tokens indent outer column (name ++ ':' :: rest)) :
    ∃ next,
      Steps reader next ∧
        AtValue next
          (.value :: .scalar true name :: .key :: (openingTokens indent column ++ tokens))
          column (openedAround indent outer column) rest := by
  obtain ⟨cursor, idle, next, rfl⟩ := atLine
  have named := readNext_name tokens outer inside key next ends idle
  have marked := readNext_colon tokens outer inside key next ends
  have colon := Cursor.rest_advance_length next
  have behind : ((cursor.advance name.length).advance 1).rest = rest := by
    rw [Cursor.rest_advance, colon]
    rfl
  have filled : 0 < name.length :=
    List.length_pos_iff.mpr (isPlainWord_of_isKeyName key).filled
  have shorter : (name ++ ':' :: rest).length ≤ reader.cursor.rest.length := by
    rw [← next, ← cursor_block cursor tokens indent outer true, ← idle]
    exact rest_skipIdle reader
  rw [List.length_append, List.length_cons] at shorter
  refine ⟨_, .tail (.single ⟨named, rfl, ?_⟩) ⟨marked, rfl, ?_⟩, _, rfl, behind, ?_⟩
  · change (cursor.advance name.length).rest.length < _
    rw [colon, List.length_cons]
    omega
  · change ((cursor.advance name.length).advance 1).rest.length <
      (cursor.advance name.length).rest.length
    rw [behind, colon]
    exact Nat.lt_succ_self _
  · have inline : ∀ other ∈ [':'], isBreak other = false := by
      rw [List.forall_mem_singleton]
      decide
    exact Nat.le_trans (Cursor.advance_inline (isBreak_of_isKeyName key) next).2.1
      (Cursor.advance_inline inline colon).2.1

end Delimit.Yaml.Reader
