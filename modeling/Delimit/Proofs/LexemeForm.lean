import Delimit.Lexeme

/-!
# The forms of a lexeme

A lexeme has one of five forms: the blank end of a line, a line comment, a
character that is a token of its own, a word, or any other character.  The form
of a text and its first lexeme determine each other, so a statement about
reading one lexeme is settled form by form.

What follows a lexeme matters only through its first character.  A lexeme is
therefore read in the same way whenever the text after it begins alike.
-/

namespace Delimit

namespace Lexeme

theorem isBlank_of_symbol?
    {character : Char}
    {kind : TokenKind}
    (symbol : symbol? character = some kind) :
    Text.isBlank character = false := by
  unfold symbol? at symbol
  split at symbol
  all_goals
    first
    | rfl
    | cases symbol

theorem isWordPart_of_symbol?
    {character : Char}
    {kind : TokenKind}
    (symbol : symbol? character = some kind) :
    Text.isWordPart character = false := by
  unfold symbol? at symbol
  split at symbol
  all_goals
    first
    | decide +kernel
    | cases symbol

theorem symbol?_of_isBlank
    {character : Char}
    (blank : Text.isBlank character = true) :
    symbol? character = none := by
  cases found : symbol? character with
  | none => rfl
  | some kind => simp [isBlank_of_symbol? found] at blank

theorem symbol?_of_isWordPart
    {character : Char}
    (part : Text.isWordPart character = true) :
    symbol? character = none := by
  cases found : symbol? character with
  | none => rfl
  | some kind => simp [isWordPart_of_symbol? found] at part

/-- No two characters are tokens of the same kind. -/
theorem eq_of_symbol?
    {character other : Char}
    {kind : TokenKind}
    (symbol : symbol? character = some kind)
    (same : symbol? other = some kind) :
    character = other := by
  unfold symbol? at symbol
  split at symbol
  all_goals
    first
    | cases symbol; unfold symbol? at same; split at same <;>
        first | rfl | cases same
    | cases symbol

@[simp]
theorem symbol?_opening
    (bracket : Bracket) :
    symbol? bracket.opening = some (.opening bracket) := by
  cases bracket <;> rfl

@[simp]
theorem symbol?_quote
    (quote : Quote) :
    symbol? quote.character = some (.quote quote) := by
  cases quote <;> rfl

/-- A text and its first lexeme, by the sort of the lexeme. -/
inductive Form : List Char → Lexeme → Prop where
  /-- Nothing but blanks is left. -/
  | blankEnd {gap : List Char}
      (blank : Text.isAllBlank gap = true) :
      Form gap ⟨gap, .endOfLine, [], []⟩
  /-- A line comment swallows what is left. -/
  | lineComment {gap rest : List Char}
      (blank : Text.isAllBlank gap = true) :
      Form (gap ++ '/' :: '/' :: rest) ⟨gap, .endOfLine, '/' :: '/' :: rest, []⟩
  /-- A character is a token of its own. -/
  | symbol {gap rest : List Char} {character : Char} {kind : TokenKind}
      (blank : Text.isAllBlank gap = true)
      (symbol : symbol? character = some kind)
      (alone : character = '/' → rest.head? ≠ some '/') :
      Form (gap ++ character :: rest) ⟨gap, kind, [character], rest⟩
  /-- A word, which extends as far as it can. -/
  | word {gap part rest : List Char} {character : Char}
      (blank : Text.isAllBlank gap = true)
      (edge : Text.isBlank character = false)
      (start : Text.isWordStart character = true)
      (parts : ∀ inner ∈ part, Text.isWordPart inner = true)
      (maximal : ∀ following, rest.head? = some following →
        Text.isWordPart following = false) :
      Form (gap ++ character :: (part ++ rest))
        ⟨gap, .identifier, character :: part, rest⟩
  /-- Any other character. -/
  | other {gap rest : List Char} {character : Char}
      (blank : Text.isAllBlank gap = true)
      (edge : Text.isBlank character = false)
      (plain : symbol? character = none)
      (start : Text.isWordStart character = false) :
      Form (gap ++ character :: rest) ⟨gap, .other, [character], rest⟩

theorem form_symbol
    {character : Char}
    {kind : TokenKind}
    {rest : List Char}
    (symbol : symbol? character = some kind)
    (alone : character = '/' → rest.head? ≠ some '/') :
    Form (character :: rest) ⟨[], kind, [character], rest⟩ :=
  @Form.symbol [] rest character kind rfl symbol alone

theorem takeWhile_of_head?
    {holds : Char → Bool}
    {front back : List Char}
    (all : ∀ character ∈ front, holds character = true)
    (edge : ∀ character, back.head? = some character →
      holds character = false) :
    (front ++ back).takeWhile holds = front := by
  rw [List.takeWhile_append_of_pos all]
  cases back with
  | nil => simp
  | cons character rest => simp [edge character rfl]

theorem dropWhile_of_head?
    {holds : Char → Bool}
    {front back : List Char}
    (all : ∀ character ∈ front, holds character = true)
    (edge : ∀ character, back.head? = some character →
      holds character = false) :
    (front ++ back).dropWhile holds = back := by
  rw [List.dropWhile_append_of_pos all]
  cases back with
  | nil => rfl
  | cons character rest => simp [edge character rfl]

theorem next_of_gap
    {gap text : List Char}
    (blank : Text.isAllBlank gap = true)
    (edge : ∀ character, text.head? = some character →
      Text.isBlank character = false) :
    next (gap ++ text) = ofUnblank gap text := by
  have all : ∀ character ∈ gap, Text.isBlank character = true := by
    simpa [Text.isAllBlank] using blank
  rw [next, takeWhile_of_head? all edge, dropWhile_of_head? all edge]

theorem form_ofUnblank
    {gap text : List Char}
    (blank : Text.isAllBlank gap = true)
    (edge : ∀ character, text.head? = some character →
      Text.isBlank character = false) :
    Form (gap ++ text) (ofUnblank gap text) := by
  unfold ofUnblank
  split
  · simpa using Form.blankEnd blank
  · exact .lineComment blank
  · rename_i character rest noComment
    have unblank := edge character rfl
    split
    · rename_i kind symbol
      refine .symbol blank symbol ?_
      rintro rfl follows
      cases rest with
      | nil => simp at follows
      | cons second rest => simp_all
    · rename_i plain
      split
      · rename_i start
        have parts : ∀ inner ∈ rest.takeWhile Text.isWordPart,
            Text.isWordPart inner = true :=
          List.all_eq_true.mp List.all_takeWhile
        have maximal : ∀ following,
            (rest.dropWhile Text.isWordPart).head? = some following →
              Text.isWordPart following = false := by
          intro following head
          have := List.head?_dropWhile_not Text.isWordPart rest
          simp_all
        simpa using Form.word blank unblank start parts maximal
      · rename_i start
        exact .other blank unblank plain (by simpa using start)

/-- The first lexeme of a text has one of the forms. -/
theorem form_next
    (text : List Char) :
    Form text (next text) := by
  have blank : Text.isAllBlank (text.takeWhile Text.isBlank) = true := by
    simp [Text.isAllBlank]
  have edge : ∀ character,
      (text.dropWhile Text.isBlank).head? = some character →
        Text.isBlank character = false := by
    intro character head
    have := List.head?_dropWhile_not Text.isBlank text
    simp_all
  have form := form_ofUnblank blank edge
  rwa [List.takeWhile_append_dropWhile] at form

theorem ofUnblank_cons
    {gap rest : List Char}
    {character : Char}
    (alone : character = '/' → rest.head? ≠ some '/') :
    ofUnblank gap (character :: rest) =
      match symbol? character with
      | some kind => ⟨gap, kind, [character], rest⟩
      | none =>
          if Text.isWordStart character then
            ⟨gap, .identifier,
              character :: rest.takeWhile Text.isWordPart,
              rest.dropWhile Text.isWordPart⟩
          else
            ⟨gap, .other, [character], rest⟩ := by
  unfold ofUnblank
  split
  · contradiction
  · rename_i following heads
    rcases List.cons.inj heads with ⟨rfl, rfl⟩
    exact (alone rfl rfl).elim
  · rename_i heads
    rcases List.cons.inj heads with ⟨rfl, rfl⟩
    rfl

theorem ne_slash_of_symbol?
    {character : Char}
    (plain : symbol? character = none) :
    character ≠ '/' := by
  rintro rfl
  contradiction

theorem ne_asterisk_of_symbol?
    {character : Char}
    (plain : symbol? character = none) :
    character ≠ '*' := by
  rintro rfl
  contradiction

theorem symbol?_beq_slash
    {character : Char}
    {kind : TokenKind}
    (symbol : symbol? character = some kind) :
    (character == '/') = (kind == .slash) := by
  unfold symbol? at symbol
  split at symbol
  all_goals
    first
    | cases symbol; rfl
    | cases symbol

theorem symbol?_beq_asterisk
    {character : Char}
    {kind : TokenKind}
    (symbol : symbol? character = some kind) :
    (character == '*') = (kind == .asterisk) := by
  unfold symbol? at symbol
  split at symbol
  all_goals
    first
    | cases symbol; rfl
    | cases symbol

namespace Form

/-- A text that has a form begins with the lexeme of that form. -/
theorem next_eq
    {text : List Char}
    {lexeme : Lexeme}
    (form : Form text lexeme) :
    next text = lexeme := by
  cases form with
  | blankEnd blank =>
      rw [← List.append_nil text, next_of_gap blank (by simp)]
      simp [ofUnblank]
  | lineComment blank =>
      rw [next_of_gap blank (by simp; rfl)]
      rfl
  | symbol blank symbol alone =>
      rw [next_of_gap blank (by simpa using isBlank_of_symbol? symbol),
        ofUnblank_cons alone, symbol]
  | word blank edge start parts maximal =>
      have plain :=
        symbol?_of_isWordPart (Text.isWordPart_of_isWordStart start)
      rw [next_of_gap blank (by simpa using edge),
        ofUnblank_cons (absurd · (ne_slash_of_symbol? plain))]
      simp only [plain, start, if_true, takeWhile_of_head? parts maximal,
        dropWhile_of_head? parts maximal]
  | other blank edge plain start =>
      rw [next_of_gap blank (by simpa using edge),
        ofUnblank_cons (absurd · (ne_slash_of_symbol? plain))]
      simp [plain, start]

theorem text_eq
    {text : List Char}
    {lexeme : Lexeme}
    (form : Form text lexeme) :
    text = lexeme.gap ++ (lexeme.value ++ lexeme.rest) := by
  rw [← form.next_eq, next_append]

/-- What is left of a line after a lexeme goes on behind its token. -/
theorem append_text
    {text gap value rest : List Char}
    {kind : TokenKind}
    (form : Form text ⟨gap, kind, value, rest⟩)
    (front : List Char) :
    front ++ text = front ++ (gap ++ value) ++ rest := by
  rw [form.text_eq, List.append_assoc, List.append_assoc]

theorem value_ne_nil
    {text : List Char}
    {lexeme : Lexeme}
    (form : Form text lexeme)
    (inner : lexeme.kind ≠ .endOfLine) :
    lexeme.value ≠ [] := by
  cases form <;> simp_all

theorem kind_of_nil
    {lexeme : Lexeme}
    (form : Form [] lexeme) :
    lexeme.kind = .endOfLine := by
  by_cases ending : lexeme.kind = .endOfLine
  · exact ending
  · have nothing := form.text_eq
    simp [form.value_ne_nil ending] at nothing

/-- Another text that begins alike after the lexeme has the same lexeme. -/
theorem replace_rest
    {text rest : List Char}
    {lexeme : Lexeme}
    (form : Form text lexeme)
    (inner : lexeme.kind ≠ .endOfLine)
    (alike : rest.head? = lexeme.rest.head?) :
    Form (lexeme.gap ++ (lexeme.value ++ rest)) { lexeme with rest } := by
  cases form with
  | blankEnd blank => exact (inner rfl).elim
  | lineComment blank => exact (inner rfl).elim
  | symbol blank symbol alone =>
      exact .symbol blank symbol (by simpa [alike] using alone)
  | word blank edge start parts maximal =>
      exact .word blank edge start parts (by simpa [alike] using maximal)
  | other blank edge plain start =>
      exact .other blank edge plain start

theorem isAllBlank_gap
    {text : List Char}
    {lexeme : Lexeme}
    (form : Form text lexeme) :
    Text.isAllBlank lexeme.gap = true := by
  cases form <;> assumption

theorem plain_gap
    {text : List Char}
    {lexeme : Lexeme}
    (form : Form text lexeme) :
    ∀ character ∈ lexeme.gap, symbol? character = none := by
  intro character member
  exact symbol?_of_isBlank
    (List.all_eq_true.mp form.isAllBlank_gap character member)

/-- A token is a character of its own, or holds none and completes nothing. -/
theorem symbol_or_plain
    {text gap value rest : List Char}
    {kind : TokenKind}
    (form : Form text ⟨gap, kind, value, rest⟩)
    (inner : kind ≠ .endOfLine) :
    (∃ character, value = [character] ∧ symbol? character = some kind ∧
        (character = '/' → rest.head? ≠ some '/')) ∨
      (kind = .identifier ∨ kind = .other) ∧
        ∀ character ∈ gap ++ value, symbol? character = none := by
  have plain_gap := form.plain_gap
  cases form with
  | blankEnd => exact (inner rfl).elim
  | lineComment => exact (inner rfl).elim
  | @symbol _ _ character _ blank symbol alone =>
      exact .inl ⟨character, rfl, symbol, alone⟩
  | word blank edge start parts =>
      right
      refine ⟨.inl rfl, ?_⟩
      intro character member
      rcases List.mem_append.mp member with blanks | word
      · exact plain_gap character blanks
      · rcases List.mem_cons.mp word with rfl | part
        · exact symbol?_of_isWordPart (Text.isWordPart_of_isWordStart start)
        · exact symbol?_of_isWordPart (parts character part)
  | other blank edge plain =>
      right
      refine ⟨.inr rfl, ?_⟩
      intro character member
      rcases List.mem_append.mp member with blanks | last
      · exact plain_gap character blanks
      · exact List.mem_singleton.mp last ▸ plain

/-- A line ends with nothing but blanks or with a line comment. -/
theorem endOfLine_inv
    {text gap swallowed rest : List Char}
    (form : Form text ⟨gap, .endOfLine, swallowed, rest⟩) :
    (text = gap ∧ swallowed = []) ∨
      ∃ comment, text = gap ++ '/' :: '/' :: comment ∧
        swallowed = '/' :: '/' :: comment := by
  cases form with
  | blankEnd blank => exact .inl ⟨rfl, rfl⟩
  | @lineComment _ comment blank => exact .inr ⟨comment, rfl, rfl⟩
  | symbol blank symbol => exact (symbol?_ne_endOfLine _ symbol).elim

/-- A token of its own is its character, and no slash is followed by another one. -/
theorem value_eq
    {text gap value rest : List Char}
    {kind : TokenKind}
    {character : Char}
    (form : Form text ⟨gap, kind, value, rest⟩)
    (symbol : symbol? character = some kind) :
    value = [character] ∧ (character = '/' → rest.head? ≠ some '/') := by
  have inner : kind ≠ .endOfLine := by
    rintro rfl
    exact symbol?_ne_endOfLine _ symbol
  have named : kind ≠ .identifier ∧ kind ≠ .other := by
    constructor
    all_goals
      rintro rfl
      unfold symbol? at symbol
      split at symbol <;> cases symbol
  rcases form.symbol_or_plain inner with
    ⟨other, rfl, same, alone⟩ | ⟨wordy, plain⟩
  · rw [eq_of_symbol? symbol same]
    exact ⟨rfl, alone⟩
  · rcases wordy with rfl | rfl
    · exact (named.1 rfl).elim
    · exact (named.2 rfl).elim

theorem quote_inv
    {text gap value content : List Char}
    {quote : Quote}
    (form : Form text ⟨gap, .quote quote, value, content⟩) :
    value = [quote.character] ∧
      ∀ other, Form (gap ++ (value ++ other))
        ⟨gap, .quote quote, value, other⟩ := by
  have value_eq := (form.value_eq (symbol?_quote quote)).1
  cases form with
  | @symbol _ _ character _ blank symbol =>
      refine ⟨value_eq, ?_⟩
      intro other
      apply Form.symbol blank symbol
      rintro rfl
      cases symbol

end Form

end Lexeme

end Delimit
