import Delimit.Proofs.OffsetRefinement
import Delimit.Proofs.DelimiterSpans

/-!
# Reading by index

Tokens and literals can also be read with an index that moves through the whole text:
past blanks, along a word, through the content of a literal with an account of whether
the next character is escaped.  One more character is looked at where a line comment
may begin.  Read in this way, tokens and literals are the same as those of the text that
is left.

Each loop looks at characters at its index or behind it only.  In front of a text, other
characters do nothing but move the index, so what is read moves along with them.
-/

namespace Delimit

/-- The first index at or behind an offset whose character does not pass a test. -/
def runEnd
    (test : Char → Bool)
    (text : List Char)
    (offset : Nat) :
    Nat :=
  match _here : text[offset]? with
  | some character =>
      if test character then
        runEnd test text (offset + 1)
      else
        offset
  | none => offset
termination_by text.length - offset
decreasing_by
  have inside := (List.getElem?_eq_some_iff.mp _here).1
  omega

section

variable
    {test : Char → Bool}
    {text : List Char}
    {offset : Nat}

theorem runEnd_of_test
    {character : Char}
    (here : text[offset]? = some character)
    (passes : test character = true) :
    runEnd test text offset = runEnd test text (offset + 1) := by
  rw [runEnd]
  split
  · rename_i other there
    cases here.symm.trans there
    rw [if_pos passes]
  · rename_i nothing
    cases here.symm.trans nothing

theorem runEnd_of_stop
    (stops : ∀ character, text[offset]? = some character → test character = false) :
    runEnd test text offset = offset := by
  rw [runEnd]
  split
  · rename_i character here
    rw [if_neg (by simp [stops character here])]
  · rfl

/-- A character is found behind other text at an index that is moved along. -/
theorem getElem?_behind
    (front text : List Char)
    (offset : Nat) :
    (front ++ text)[front.length + offset]? = text[offset]? := by
  rw [List.getElem?_append_right (Nat.le_add_right _ _), Nat.add_sub_cancel_left]

/-- Behind other text, a run ends at an index that is moved along. -/
theorem runEnd_append
    (front : List Char) :
    runEnd test (front ++ text) (front.length + offset) =
      front.length + runEnd test text offset := by
  fun_induction runEnd test text offset with
  | case1 offset character here passes induction =>
      rw [← induction]
      exact runEnd_of_test ((getElem?_behind front text offset).trans here) passes
  | case2 offset character here fails =>
      refine runEnd_of_stop fun other there => ?_
      rw [getElem?_behind, here] at there
      cases there
      simpa using fails
  | case3 offset nothing =>
      refine runEnd_of_stop fun other there => ?_
      rw [getElem?_behind, nothing] at there
      cases there

/-- A run from the beginning of a text takes up what passes the test. -/
theorem runEnd_zero
    (test : Char → Bool)
    (text : List Char) :
    runEnd test text 0 = (text.takeWhile test).length := by
  induction text with
  | nil => exact runEnd_of_stop (by simp)
  | cons character rest induction =>
      by_cases passes : test character = true
      · rw [runEnd_of_test rfl passes, List.takeWhile_cons_of_pos passes]
        have moved := @runEnd_append test rest 0 [character]
        rw [List.length_cons, ← induction, Nat.add_comm (runEnd test rest 0) 1]
        exact moved
      · rw [List.takeWhile_cons_of_neg passes]
        refine runEnd_of_stop fun other here => ?_
        cases here
        simpa using passes

end

/-! ## Tokens -/

namespace Token

/-- A token that is read further along in a text. -/
def shift
    (distance : Nat)
    (token : Token) :
    Token :=
  { token with
    start := distance + token.start
    stop := distance + token.stop }

/-- The token whose first character stands at an index. -/
def indexedFrom
    (text : List Char)
    (start : Nat) :
    Token :=
  match text[start]? with
  | none => ⟨.endOfLine, [], text.length, text.length⟩
  | some character =>
      if character = '/' ∧ text[start + 1]? = some '/' then
        ⟨.endOfLine, text.drop start, start, text.length⟩
      else
        match Lexeme.symbol? character with
        | some kind => ⟨kind, [character], start, start + 1⟩
        | none =>
            if Text.isWordStart character then
              let stop := runEnd Text.isWordPart text (start + 1)
              ⟨.identifier, textBetween text start stop, start, stop⟩
            else
              ⟨.other, [character], start, start + 1⟩

/-- The first token of a text at or behind an index. -/
def indexed
    (text : List Char)
    (offset : Nat) :
    Token :=
  indexedFrom text (runEnd Text.isBlank text offset)

/-- Text between two indices is found again behind other text. -/
theorem textBetween_behind
    (front text : List Char)
    (start stop : Nat) :
    textBetween (front ++ text) (front.length + start) (front.length + stop) =
      textBetween text start stop := by
  rw [textBetween, List.take_length_add_append, List.drop_length_add_append, textBetween]

theorem indexedFrom_append
    (front text : List Char)
    (start : Nat) :
    indexedFrom (front ++ text) (front.length + start) =
      (indexedFrom text start).shift front.length := by
  have run := @runEnd_append Text.isWordPart text (start + 1) front
  unfold indexedFrom
  rw [getElem?_behind, Nat.add_assoc, getElem?_behind, run]
  cases text[start]? with
  | none => simp [shift]
  | some character =>
      dsimp only
      split
      · simp [shift, List.drop_length_add_append]
      · cases Lexeme.symbol? character with
        | some kind => rfl
        | none =>
            dsimp only
            split
            · rw [textBetween_behind]
              rfl
            · rfl

/-- Behind other text the same token is read further along. -/
theorem indexed_append
    (front text : List Char)
    (offset : Nat) :
    indexed (front ++ text) (front.length + offset) =
      (indexed text offset).shift front.length := by
  rw [indexed, runEnd_append, indexedFrom_append, indexed]

theorem ofLexeme_add
    (front offset : Nat)
    (lexeme : Lexeme) :
    ofLexeme (front + offset) lexeme = (ofLexeme offset lexeme).shift front := by
  simp [ofLexeme, shift, Nat.add_assoc]

theorem indexed_of_gap
    {gap text : List Char}
    (blank : Text.isAllBlank gap = true)
    (edge : ∀ character, text.head? = some character →
      Text.isBlank character = false) :
    indexed (gap ++ text) 0 = (indexedFrom text 0).shift gap.length := by
  have all : ∀ character ∈ gap, Text.isBlank character = true := by
    simpa [Text.isAllBlank] using blank
  rw [indexed, runEnd_zero, Lexeme.takeWhile_of_head? all edge]
  exact indexedFrom_append gap text 0

theorem indexedFrom_of_symbol
    {character : Char}
    {kind : TokenKind}
    {rest : List Char}
    (symbol : Lexeme.symbol? character = some kind)
    (alone : character = '/' → rest.head? ≠ some '/') :
    indexedFrom (character :: rest) 0 = ⟨kind, [character], 0, 1⟩ := by
  have unmarked : ¬ (character = '/' ∧ (character :: rest)[0 + 1]? = some '/') := by
    rintro ⟨slash, second⟩
    exact alone slash (List.head?_eq_getElem? ▸ second)
  simp only [indexedFrom, List.getElem?_cons_zero, if_neg unmarked, symbol]

theorem indexedFrom_of_plain
    {character : Char}
    (plain : Lexeme.symbol? character = none)
    (rest : List Char) :
    indexedFrom (character :: rest) 0 =
      if Text.isWordStart character then
        let stop := runEnd Text.isWordPart (character :: rest) 1
        ⟨.identifier, textBetween (character :: rest) 0 stop, 0, stop⟩
      else
        ⟨.other, [character], 0, 1⟩ := by
  have unmarked : ¬ (character = '/' ∧ (character :: rest)[0 + 1]? = some '/') :=
    fun marked => Lexeme.ne_slash_of_symbol? plain marked.1
  simp only [indexedFrom, List.getElem?_cons_zero, if_neg unmarked, plain]

/-- The first token of a text is its first lexeme. -/
theorem indexed_of_form
    {text : List Char}
    {lexeme : Lexeme}
    (form : Lexeme.Form text lexeme) :
    indexed text 0 = ofLexeme 0 lexeme := by
  cases form with
  | blankEnd blank =>
      have ended := @indexed_of_gap text [] blank (by simp)
      rw [List.append_nil] at ended
      rw [ended]
      simp [indexedFrom, ofLexeme, shift]
  | @lineComment gap rest blank =>
      rw [indexed_of_gap blank (by rintro _ ⟨⟩; decide)]
      simp [indexedFrom, ofLexeme, shift]
  | @symbol gap rest character kind blank symbol alone =>
      rw [indexed_of_gap blank (by rintro _ ⟨⟩; exact Lexeme.isBlank_of_symbol? symbol),
        indexedFrom_of_symbol symbol alone]
      simp [ofLexeme, shift]
  | @word gap part rest character blank edge start parts maximal =>
      have plain := Lexeme.symbol?_of_isWordPart (Text.isWordPart_of_isWordStart start)
      have stop : runEnd Text.isWordPart (character :: (part ++ rest)) 1 =
          1 + part.length := by
        have moved := @runEnd_append Text.isWordPart (part ++ rest) 0 [character]
        rw [runEnd_zero, Lexeme.takeWhile_of_head? parts maximal] at moved
        exact moved
      rw [indexed_of_gap blank (by rintro _ ⟨⟩; exact edge), indexedFrom_of_plain plain,
        if_pos start, stop]
      simp [ofLexeme, shift, textBetween, Nat.add_comm 1]
  | @other gap rest character blank edge plain start =>
      rw [indexed_of_gap blank (by rintro _ ⟨⟩; exact edge), indexedFrom_of_plain plain,
        if_neg (by simp [start])]
      simp [ofLexeme, shift]

/-- Read by index, tokens are those of the text that is left. -/
theorem indexed_eq_readAt
    (text : List Char)
    (offset : Nat) :
    indexed text offset = readAt text offset := by
  have first := indexed_of_form (Lexeme.form_next (text.drop offset))
  by_cases inside : offset ≤ text.length
  · have front : (text.take offset).length = offset := List.length_take_of_le inside
    have moved := indexed_append (text.take offset) (text.drop offset) 0
    rw [List.take_append_drop, front, first, ← ofLexeme_add] at moved
    rw [readAt, Nat.min_eq_left inside]
    exact moved
  · have beyond := Nat.le_of_not_le inside
    have ended : runEnd Text.isBlank text offset = offset :=
      runEnd_of_stop fun character here => by
        rw [List.getElem?_eq_none beyond] at here
        cases here
    rw [indexed, ended, indexedFrom, List.getElem?_eq_none beyond, readAt,
      List.drop_eq_nil_of_le beyond, Nat.min_eq_right beyond]
    rfl

end Token

/-! ## Literals -/

/-- The reasons for which no literal is skipped. -/
inductive SkipFault where
  /-- No quote stands where the literal is to begin. -/
  | noLiteral (fault : NoLiteral)
  /-- The text that is to close the literal is no quote. -/
  | noQuote (text : List Char)
  deriving DecidableEq, Repr

namespace SkipFault

/-- A fault that is met further along in a text. -/
def shift
    (distance : Nat) :
    SkipFault → SkipFault
  | noLiteral fault => .noLiteral ⟨distance + fault.offset⟩
  | noQuote text => .noQuote text

end SkipFault

namespace QuotedLiteral

/-- A literal that is read further along in a text. -/
def shift
    (distance : Nat)
    (literal : QuotedLiteral) :
    QuotedLiteral :=
  { literal with
    start := distance + literal.start
    stop := distance + literal.stop }

/-- The literal from a start, when its content is read from an index on. -/
def indexedFrom
    (quote : Quote)
    (text : List Char)
    (start : Nat)
    (escaped : Bool)
    (cursor : Nat) :
    QuotedLiteral :=
  match _here : text[cursor]? with
  | none => ⟨quote, start, cursor, false⟩
  | some character =>
      if escaped then
        indexedFrom quote text start false (cursor + 1)
      else if character = '\\' then
        indexedFrom quote text start true (cursor + 1)
      else if character = quote.character then
        ⟨quote, start, cursor + 1, true⟩
      else
        indexedFrom quote text start false (cursor + 1)
termination_by text.length - cursor
decreasing_by
  all_goals
    have inside := (List.getElem?_eq_some_iff.mp _here).1
    omega

/-- The quote that a text consists of. -/
def quoteOf? : List Char → Option Quote
  | [character] => Quote.ofCharacter? character
  | _ => none

/--
Skips the literal whose opening quote stands at an index, or the rest of a literal that
is to be closed by a given text.
-/
def indexed
    (text : List Char)
    (offset : Nat) :
    Option (List Char) → Except SkipFault QuotedLiteral
  | none =>
      match text[offset]?.bind Quote.ofCharacter? with
      | some quote => .ok (indexedFrom quote text offset false (offset + 1))
      | none => .error (.noLiteral ⟨offset⟩)
  | some closing =>
      match quoteOf? closing with
      | some quote => .ok (indexedFrom quote text offset false offset)
      | none => .error (.noQuote closing)

section

variable
    {quote : Quote}
    {text : List Char}
    {start cursor : Nat}
    {escaped : Bool}

theorem indexedFrom_of_end
    (ended : text[cursor]? = none) :
    indexedFrom quote text start escaped cursor = ⟨quote, start, cursor, false⟩ := by
  rw [indexedFrom]
  split
  · rfl
  · rename_i character here
    cases ended.symm.trans here

theorem indexedFrom_of_here
    {character : Char}
    (here : text[cursor]? = some character) :
    indexedFrom quote text start escaped cursor =
      if escaped then
        indexedFrom quote text start false (cursor + 1)
      else if character = '\\' then
        indexedFrom quote text start true (cursor + 1)
      else if character = quote.character then
        ⟨quote, start, cursor + 1, true⟩
      else
        indexedFrom quote text start false (cursor + 1) := by
  rw [indexedFrom]
  split
  · rename_i ended
    cases here.symm.trans ended
  · rename_i other there
    cases here.symm.trans there
    rfl

/-- Behind other text the same content is read further along. -/
theorem indexedFrom_append
    (front : List Char) :
    indexedFrom quote (front ++ text) (front.length + start) escaped
        (front.length + cursor) =
      (indexedFrom quote text start escaped cursor).shift front.length := by
  fun_induction indexedFrom quote text start escaped cursor with
  | case1 escaped cursor ended =>
      exact indexedFrom_of_end ((getElem?_behind front text cursor).trans ended)
  | case2 cursor character here induction =>
      rw [indexedFrom_of_here ((getElem?_behind front text cursor).trans here), if_pos rfl]
      exact induction
  | case3 escaped cursor plain here induction =>
      rw [indexedFrom_of_here ((getElem?_behind front text cursor).trans here),
        if_neg plain, if_pos rfl]
      exact induction
  | case4 escaped cursor plain here unescaped =>
      rw [indexedFrom_of_here ((getElem?_behind front text cursor).trans here),
        if_neg plain, if_neg unescaped, if_pos rfl]
      rfl
  | case5 escaped cursor character here plain unescaped inner induction =>
      rw [indexedFrom_of_here ((getElem?_behind front text cursor).trans here),
        if_neg plain, if_neg unescaped, if_neg inner]
      exact induction

/-- Behind other text the same literal is skipped further along, or the same is missed. -/
theorem indexed_append
    (front text : List Char)
    (offset : Nat)
    (closing? : Option (List Char)) :
    indexed (front ++ text) (front.length + offset) closing? =
      ((indexed text offset closing?).map (shift front.length)).mapError
        (SkipFault.shift front.length) := by
  cases closing? with
  | none =>
      unfold indexed
      dsimp only
      rw [getElem?_behind]
      cases text[offset]?.bind Quote.ofCharacter? with
      | none => rfl
      | some quote =>
          dsimp only
          rw [Nat.add_assoc, indexedFrom_append]
          rfl
  | some closing =>
      unfold indexed
      dsimp only
      cases quoteOf? closing with
      | none => rfl
      | some quote =>
          dsimp only
          rw [indexedFrom_append]
          rfl

/-- Content that is read behind other text ends where what is read of it is covered. -/
theorem indexedFrom_behind
    (quote : Quote)
    (start : Nat)
    (front text : List Char) :
    indexedFrom quote (front ++ text) start false front.length =
      ⟨quote, start, front.length + (LiteralContent.read quote text).covered.length,
        (LiteralContent.read quote text).ending.isClosed⟩ := by
  have first (text : List Char) : (front ++ text)[front.length]? = text[0]? :=
    getElem?_behind front text 0
  induction text using LiteralContent.escapeInduction generalizing front with
  | nil =>
      rw [indexedFrom_of_end (first []), LiteralContent.read_nil]
      rfl
  | lone =>
      have second : (front ++ ['\\'])[front.length + 1]? = none :=
        getElem?_behind front ['\\'] 1
      rw [indexedFrom_of_here (first _), if_neg Bool.false_ne_true, if_pos rfl,
        indexedFrom_of_end second, LiteralContent.read_lone]
      rfl
  | escape escaped rest induction =>
      have second : (front ++ '\\' :: escaped :: rest)[front.length + 1]? = some escaped :=
        getElem?_behind front _ 1
      have behind := induction (front ++ ['\\', escaped]) fun _ => getElem?_behind _ _ 0
      rw [indexedFrom_of_here (first _), if_neg Bool.false_ne_true, if_pos rfl,
        indexedFrom_of_here second, if_pos rfl, LiteralContent.read_escape]
      simpa [Nat.add_assoc, Nat.add_comm 2] using behind
  | plain character rest plain induction =>
      have behind := induction (front ++ [character]) fun _ => getElem?_behind _ _ 0
      rw [indexedFrom_of_here (first _), if_neg Bool.false_ne_true, if_neg plain,
        LiteralContent.read_plain plain]
      split
      · rfl
      · simpa [Nat.add_assoc, Nat.add_comm 1] using behind

/-- Read by index, a literal is that of the content that is left. -/
theorem indexedFrom_eq_spanning
    (quote : Quote)
    (text : List Char)
    (start content : Nat) :
    indexedFrom quote text start false content = spanning quote text start content := by
  by_cases inside : content ≤ text.length
  · have front : (text.take content).length = content := List.length_take_of_le inside
    have behind := indexedFrom_behind quote start (text.take content) (text.drop content)
    rw [List.take_append_drop, front] at behind
    exact behind
  · have beyond := Nat.le_of_not_le inside
    rw [indexedFrom_of_end (List.getElem?_eq_none beyond), spanning,
      List.drop_eq_nil_of_le beyond, LiteralContent.read_nil]
    rfl

/-- Skipping by index gives the literal that begins or goes on at the index. -/
theorem indexed_eq
    (text : List Char)
    (offset : Nat) :
    indexed text offset none = (startingAt text offset).mapError .noLiteral ∧
      ∀ quote : Quote,
        indexed text offset (some [quote.character]) = .ok (continued quote text offset) := by
  constructor
  · unfold indexed startingAt
    dsimp only
    cases text[offset]?.bind Quote.ofCharacter? with
    | none => rfl
    | some quote =>
        dsimp only
        rw [indexedFrom_eq_spanning]
        rfl
  · intro quote
    unfold indexed
    simp only [quoteOf?, Quote.ofCharacter?_character, indexedFrom_eq_spanning]
    rfl

end

end QuotedLiteral

end Delimit
