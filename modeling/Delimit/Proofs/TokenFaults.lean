import Delimit.Proofs.CursorMoves
import Delimit.Proofs.QuotedWriting
import Delimit.Yaml.Token.Reading
import Mathlib.Data.List.Induction

/-!
# Faults of tokens

The reading of tokens refuses a text in many ways and breaks down in two only: at an
escape between double quotes that writes a code beyond the last character, and at a
directive that gives the version of the format with a number of too many digits.

Readers only ever move on in their text, so what they break down at stands in it.
-/

namespace Delimit.Yaml

/-- A result that is as asserted, or a fault that is a breakdown for an asserted cause only. -/
def Yields
    {α : Type}
    (asserted : α → Prop)
    (cause : Breakdown → Prop) :
    Except Fault α → Prop
  | .ok value => asserted value
  | .error fault => ∀ breakdown, fault = .breakdown breakdown → cause breakdown

section

variable
    {α β : Type}
    {asserted : α → Prop}
    {cause : Breakdown → Prop}

theorem yields_ok
    {value : α}
    (holds : asserted value) :
    Yields asserted cause (.ok value) := holds

theorem yields_pure
    {value : α}
    (holds : asserted value) :
    Yields asserted cause (pure value) := holds

/-- A fault that is no breakdown needs no cause. -/
theorem yields_error
    {fault : Fault}
    (refused : fault.breakdown? = none) :
    Yields asserted cause (.error fault) := by
  rintro breakdown rfl
  cases refused

theorem yields_throw
    {fault : Fault}
    (refused : fault.breakdown? = none) :
    Yields asserted cause (throw fault) :=
  yields_error refused

theorem yields_ite
    {condition : Prop}
    [Decidable condition]
    {first second : Except Fault α}
    (holds : condition → Yields asserted cause first)
    (fails : Yields asserted cause second) :
    Yields asserted cause (if condition then first else second) := by
  split
  · rename_i given
    exact holds given
  · exact fails

theorem yields_breakdown
    {breakdown : Breakdown}
    (known : cause breakdown) :
    Yields asserted cause (.error (.breakdown breakdown)) := by
  rintro other ⟨⟩
  exact known

theorem Yields.mono
    {stronger : α → Prop}
    {narrower : Breakdown → Prop}
    {result : Except Fault α}
    (yields : Yields stronger narrower result)
    (holds : ∀ value, stronger value → asserted value)
    (known : ∀ breakdown, narrower breakdown → cause breakdown) :
    Yields asserted cause result := by
  cases result with
  | ok value => exact holds value yields
  | error fault => exact fun breakdown same => known breakdown (yields breakdown same)

/-- What a result is may be asserted of it. -/
theorem Yields.eq_ok
    {result : Except Fault α}
    (yields : Yields asserted cause result) :
    Yields (fun value => result = .ok value) cause result := by
  cases result with
  | ok value => exact rfl
  | error fault => exact yields

/-- Where nothing is asserted of a value, only the breakdowns count. -/
theorem yields_true_iff
    {result : Except Fault α} :
    Yields (fun _ => True) cause result ↔
      ∀ breakdown, result = .error (.breakdown breakdown) → cause breakdown := by
  constructor
  · rintro yields breakdown rfl
    exact yields breakdown rfl
  · intro known
    cases result with
    | ok value => exact trivial
    | error fault =>
        rintro breakdown rfl
        exact known breakdown rfl

/-- What is asserted between two steps is all that the second one has to rely on. -/
theorem Yields.bind
    {between : α → Prop}
    {after : β → Prop}
    {first : Except Fault α}
    {next : α → Except Fault β}
    (yields : Yields between cause first)
    (further : ∀ value, between value → Yields after cause (next value)) :
    Yields after cause (first >>= next) := by
  cases first with
  | ok value => exact further value yields
  | error fault => exact yields

/-- A result that is no breakdown. -/
def Unbroken
    (result : Except Fault α) :
    Prop :=
  Yields (fun _ => True) (fun _ => False) result

theorem Unbroken.bind
    {after : β → Prop}
    {first : Except Fault α}
    {next : α → Except Fault β}
    (unbroken : Unbroken first)
    (further : ∀ value, Yields after cause (next value)) :
    Yields after cause (first >>= next) :=
  Yields.bind (unbroken.mono (fun _ holds => holds) (fun _ => False.elim))
    (fun value _ => further value)

end

/-! ## The two ways to break down -/

/-- A directive for the version in a text has a number with too many digits. -/
inductive LongVersion (text : List Char) : Prop where
  | written {rest number : List Char}
      (directive : "%YAML".toList ++ rest <:+ text)
      (inside : number <:+ rest)
      (long : Text.longestNumber < (number.takeWhile Char.isDigit).length) :
      LongVersion text

/-- An escape of eight digits in a text writes a code beyond the last character. -/
inductive FarEscape (text : List Char) : Breakdown → Prop where
  | written {rest : List Char} {code : Nat}
      (escape : '\\' :: 'U' :: rest <:+ text)
      (digits : Flow.code? 8 rest = some code)
      (far : 0x10FFFF < code) :
      FarEscape text (if 0x80000000 ≤ code then .overflow else .badNumber)

/-- What a reader of tokens breaks down at. -/
inductive TokenHazard (text : List Char) : Breakdown → Prop where
  | version (long : LongVersion text) : TokenHazard text .badNumber
  | escape {cause : Breakdown} (far : FarEscape text cause) : TokenHazard text cause

/-- What stands in the end of a text stands in the text. -/
theorem TokenHazard.of_suffix
    {rest text : List Char}
    {cause : Breakdown}
    (hazard : TokenHazard rest cause)
    (inside : rest <:+ text) :
    TokenHazard text cause := by
  cases hazard with
  | version long =>
      rcases long with ⟨directive, number, long⟩
      exact .version (.written (directive.trans inside) number long)
  | escape far =>
      rcases far with ⟨escape, digits, far⟩
      exact .escape (.written (escape.trans inside) digits far)

/-- A reading that moves its cursor on, if it does not break down at what stands there. -/
def MovesOn
    {α : Type}
    (cursor : Cursor)
    (result : Except Fault (α × Cursor)) :
    Prop :=
  Yields (fun read => read.2.rest <:+ cursor.rest) (TokenHazard cursor.rest) result

section

variable
    {α β : Type}
    {cursor : Cursor}

theorem movesOn_ok
    {value : α}
    {next : Cursor}
    (behind : next.rest <:+ cursor.rest) :
    MovesOn cursor (.ok (value, next)) := behind

theorem movesOn_error
    {fault : Fault}
    (refused : fault.breakdown? = none) :
    @MovesOn α cursor (.error fault) :=
  yields_error refused

/-- A reading from a later place is one from an earlier place. -/
theorem MovesOn.from_earlier
    {later : Cursor}
    {result : Except Fault (α × Cursor)}
    (moves : MovesOn later result)
    (behind : later.rest <:+ cursor.rest) :
    MovesOn cursor result :=
  Yields.mono moves (fun _ further => further.trans behind)
    (fun _ hazard => hazard.of_suffix behind)

theorem MovesOn.bind
    {first : Except Fault (α × Cursor)}
    {next : α × Cursor → Except Fault (β × Cursor)}
    (moves : MovesOn cursor first)
    (further : ∀ read : α × Cursor,
      read.2.rest <:+ cursor.rest → MovesOn cursor (next read)) :
    MovesOn cursor (first >>= next) :=
  Yields.bind moves further

end

/-! ## Names, tags and directives -/

namespace Property

theorem movesOn_name
    (cursor : Cursor) :
    MovesOn cursor (name cursor) := by
  unfold name
  dsimp only
  split
  · exact movesOn_ok (.trans (Cursor.spanWhile_suffix _ _) (cursor.advance_suffix 1))
  · exact movesOn_error rfl

theorem unbroken_escapedBytes
    (text : List Char) :
    Unbroken (escapedBytes text) := by
  induction text using escapedBytes.induct with
  | case1 high low rest digits induction =>
      rw [escapedBytes, if_pos digits]
      exact induction.bind fun _ => yields_pure trivial
  | case2 high low rest digits =>
      rw [escapedBytes, if_neg digits]
      exact yields_error rfl
  | case3 rest short =>
      rw [escapedBytes]
      · exact yields_error rfl
      · exact short
  | case4 rest noEscape noMark =>
      rw [escapedBytes]
      · exact yields_ok trivial
      · exact noEscape
      · exact noMark

theorem unbroken_unescape
    (fuel : Nat)
    (text : List Char) :
    Unbroken (unescape fuel text) := by
  induction fuel generalizing text with
  | zero => exact yields_ok trivial
  | succ fuel induction =>
      cases text with
      | nil => exact yields_ok trivial
      | cons character rest =>
          unfold unescape
          split
          · refine (unbroken_escapedBytes _).bind fun ⟨bytes, rest⟩ => ?_
            dsimp only
            split
            · exact yields_throw rfl
            · exact (induction _).bind fun _ => yields_pure trivial
          · exact (induction rest).bind fun _ => yields_pure trivial

theorem movesOn_address
    (cursor : Cursor) :
    MovesOn cursor (address cursor) := by
  unfold address
  dsimp only
  split
  · exact movesOn_error rfl
  · exact (unbroken_unescape _ _).bind fun _ => cursor.spanWhile_suffix _

theorem movesOn_handle
    (cursor : Cursor) :
    MovesOn cursor (handle cursor) := by
  unfold handle
  split
  · exact movesOn_error rfl
  · split
    · exact movesOn_ok (cursor.advance_suffix 1)
    · dsimp only
      split
      · refine movesOn_ok ?_
        exact (Cursor.advance_suffix _ 1).trans
          ((Cursor.spanWhile_suffix _ _).trans (cursor.advance_suffix 1))
      · exact movesOn_error rfl

theorem movesOn_tag
    (cursor : Cursor) :
    MovesOn cursor (tag cursor) := by
  have ends (read : TagName × Cursor) (behind : read.2.rest <:+ cursor.rest) :
      MovesOn cursor
        (if endsField read.2.peek? then pure read else throw .badToken) := by
    split
    · exact movesOn_ok behind
    · exact yields_throw rfl
  unfold tag
  dsimp only
  split
  · refine ((movesOn_address _).from_earlier (cursor.advance_suffix 2)).bind ?_
    intro read behind
    split
    · exact yields_throw rfl
    · exact ends _ ((Cursor.advance_suffix _ 1).trans behind)
  · split
    · exact ends _ (cursor.advance_suffix 1)
    · split
      · refine (movesOn_handle cursor).bind ?_
        intro read behind
        refine ((movesOn_address _).from_earlier behind).bind ?_
        intro address further
        exact ends _ further
      · refine ((movesOn_address _).from_earlier (cursor.advance_suffix 1)).bind ?_
        intro read behind
        exact ends _ behind

/-- A number is read unless it has too many digits. -/
theorem number_yields
    (cursor : Cursor) :
    Yields (fun read => read.2.rest <:+ cursor.rest)
      (fun cause => cause = .badNumber ∧
        Text.longestNumber < (cursor.rest.takeWhile Char.isDigit).length)
      (number cursor) := by
  unfold number
  dsimp only
  split
  · exact yields_error rfl
  · split
    · rename_i long
      exact yields_breakdown ⟨rfl, long⟩
    · exact yields_ok (cursor.spanWhile_suffix _)

theorem version_yields
    (cursor : Cursor) :
    Yields (fun read => read.2.rest <:+ cursor.rest)
      (fun cause => cause = .badNumber ∧ ∃ number, number <:+ cursor.rest ∧
        Text.longestNumber < (number.takeWhile Char.isDigit).length)
      (version cursor) := by
  have numbered (later : Cursor) (behind : later.rest <:+ cursor.rest) :
      Yields (fun read => read.2.rest <:+ cursor.rest)
        (fun cause => cause = .badNumber ∧ ∃ number, number <:+ cursor.rest ∧
          Text.longestNumber < (number.takeWhile Char.isDigit).length)
        (number later) :=
    (number_yields later).mono
      (fun _ further => further.trans behind)
      (fun _ ⟨same, long⟩ => ⟨same, later.rest, behind, long⟩)
  unfold version
  dsimp only
  refine (numbered _ cursor.skipSpaces_suffix).bind ?_
  intro major behind
  split
  · exact yields_throw rfl
  · refine (numbered _ ((Cursor.advance_suffix _ 1).trans behind)).bind ?_
    intro minor further
    split
    · exact yields_ok further
    · exact yields_throw rfl

theorem movesOn_abbreviation
    (cursor : Cursor) :
    MovesOn cursor (abbreviation cursor) := by
  unfold abbreviation
  dsimp only
  refine ((movesOn_handle _).from_earlier cursor.skipSpaces_suffix).bind ?_
  intro handle behind
  split
  · exact yields_throw rfl
  · refine ((movesOn_address _).from_earlier
      ((Cursor.skipSpaces_suffix _).trans behind)).bind ?_
    intro address further
    split
    · exact movesOn_ok further
    · exact yields_throw rfl

theorem movesOn_directive
    {cursor : Cursor}
    {rest : List Char}
    (mark : cursor.rest = '%' :: rest) :
    MovesOn cursor (directive cursor) := by
  have ends (read : Directive × Cursor) (behind : read.2.rest <:+ cursor.rest) :
      MovesOn cursor
        (let spaced := read.2.skipSpaces
        let next := if spaced.peek? == some '#' then spaced.skipLine else spaced
        if endsLine next.peek? then
          pure (read.1, next.skipLineBreak)
        else
          throw .badToken) := by
    have spaced := read.2.skipSpaces_suffix.trans behind
    have next : (if read.2.skipSpaces.peek? == some '#' then read.2.skipSpaces.skipLine
        else read.2.skipSpaces).rest <:+ cursor.rest := by
      split
      · exact (Cursor.skipLine_suffix _).trans spaced
      · exact spaced
    dsimp only
    generalize (if read.2.skipSpaces.peek? == some '#' then read.2.skipSpaces.skipLine
        else read.2.skipSpaces) = last at next ⊢
    split
    · exact movesOn_ok ((Cursor.skipLineBreak_suffix last).trans next)
    · exact yields_throw rfl
  have whole : '%' :: ((cursor.advance 1).spanWhile isNamePart).1 ++
      ((cursor.advance 1).spanWhile isNamePart).2.rest = cursor.rest := by
    rw [List.cons_append, Cursor.spanWhile_append, Cursor.rest_advance, mark]
    rfl
  have named : ((cursor.advance 1).spanWhile isNamePart).2.rest <:+ cursor.rest :=
    ⟨_, whole⟩
  unfold directive
  dsimp only
  split
  · exact @movesOn_error _ cursor .badToken rfl
  · split
    · rename_i name
      rw [eq_of_beq name] at whole
      refine Yields.bind ((version_yields _).mono ?_ ?_) ends
      · exact fun _ further => further.trans named
      · rintro _ ⟨rfl, number, inside, long⟩
        exact .version (.written ⟨[], whole⟩ inside long)
    · split
      · exact ((movesOn_abbreviation _).from_earlier named).bind ends
      · exact ends _ ((Cursor.skipLine_suffix _).trans named)

end Property

/-! ## Scalars -/

theorem hexDigitValue_lt
    {digit : Char}
    (hex : isHexDigit digit = true) :
    hexDigitValue digit < 16 := by
  have small : digit.toNat < 128 := by
    simp only [isHexDigit, Char.isDigit, Bool.or_eq_true, Bool.and_eq_true,
      decide_eq_true_eq] at hex
    rcases hex with (⟨-, top⟩ | ⟨-, top⟩) | ⟨-, top⟩
    · exact Nat.lt_of_le_of_lt top (by decide)
    · exact Nat.lt_of_le_of_lt top (by decide)
    · exact Nat.lt_of_le_of_lt top (by decide)
  have all : ∀ code < 128, isHexDigit (Char.ofNat code) = true →
      hexDigitValue (Char.ofNat code) < 16 := by
    decide +kernel
  have digit_eq := all digit.toNat small
  rw [Char.ofNat_toNat] at digit_eq
  exact digit_eq hex

theorem hexValue_lt
    (digits : List Char)
    (hex : digits.all isHexDigit = true) :
    hexValue digits < 16 ^ digits.length := by
  induction digits using List.reverseRecOn with
  | nil => exact Nat.one_pos
  | append_singleton digits digit induction =>
      rw [List.all_append, Bool.and_eq_true] at hex
      have front := induction hex.1
      have last : hexDigitValue digit < 16 := hexDigitValue_lt (by simpa using hex.2)
      rw [Written.hexValue_append, List.length_append, List.length_singleton, Nat.pow_succ]
      omega

namespace Flow

theorem code?_lt
    {length code : Nat}
    {text : List Char}
    (written : code? length text = some code) :
    code < 16 ^ length := by
  unfold code? at written
  dsimp only at written
  split at written
  · rename_i digits
    rw [Bool.and_eq_true] at digits
    cases written
    have bound := hexValue_lt _ digits.2
    rwa [eq_of_beq digits.1] at bound
  · cases written

/-- Only escapes of eight digits reach beyond the last character. -/
theorem eq_U_of_far
    {letter : Char}
    {length code : Nat}
    {text : List Char}
    (counted : codeLength? letter = some length)
    (written : code? length text = some code)
    (far : 0x10FFFF < code) :
    letter = 'U' ∧ length = 8 := by
  have bound := code?_lt written
  unfold codeLength? at counted
  split at counted
  · cases counted
    omega
  · cases counted
    omega
  · cases counted
    exact ⟨rfl, rfl⟩
  · cases counted

theorem numberedEscape_yields
    (letter : Char)
    (length : Nat)
    (text : List Char) :
    Yields (fun _ => True)
      (fun cause => ∃ code, code? length text = some code ∧ 0x10FFFF < code ∧
        cause = if 0x80000000 ≤ code then .overflow else .badNumber)
      (numberedEscape letter length text) := by
  unfold numberedEscape
  split
  · exact yields_error rfl
  · rename_i code written
    split
    · rename_i machine
      exact yields_breakdown ⟨code, written, by omega, by rw [if_pos machine]⟩
    · rename_i machine
      split
      · rename_i far
        exact yields_breakdown ⟨code, written, far, by rw [if_neg machine]⟩
      · split
        · split
          · exact yields_ok trivial
          · exact yields_ok trivial
        · split
          · exact yields_ok trivial
          · exact yields_ok trivial

theorem unbroken_blankLines
    (lineStart : Bool)
    (text : List Char) :
    Unbroken (blankLines lineStart text) := by
  induction text generalizing lineStart with
  | nil =>
      unfold blankLines
      split
      · exact yields_error rfl
      · exact yields_ok trivial
  | cons character rest induction =>
      unfold blankLines
      split
      · exact yields_error rfl
      · dsimp only
        split
        · exact (induction false).bind fun _ => yields_pure trivial
        · split
          · exact (induction true).bind fun _ => yields_pure trivial
          · exact yields_ok trivial

theorem movesOn_gap
    (cursor : Cursor) :
    MovesOn cursor (gap cursor) := by
  have blanks := cursor.spanWhile_suffix isSpaceOrTab
  unfold gap
  dsimp only
  split
  · exact movesOn_error rfl
  · split
    · exact movesOn_ok blanks
    · rename_i found
      refine (unbroken_blankLines _ _).bind fun _ => ?_
      exact (Cursor.advance_suffix _ _).trans
        ((Cursor.lineBreak?_suffix found).trans blanks)

/-- An escape is read where its backslash stands. -/
theorem movesOn_escape
    {cursor : Cursor}
    {rest : List Char}
    (mark : cursor.rest = '\\' :: rest) :
    MovesOn cursor (escape (cursor.advance 1)) := by
  have behind : (cursor.advance 1).rest = rest := by
    rw [Cursor.rest_advance, mark]
    rfl
  have further (count : Nat) :
      ((cursor.advance 1).advance count).rest <:+ cursor.rest :=
    (Cursor.advance_suffix _ _).trans (cursor.advance_suffix 1)
  unfold escape
  split
  · exact movesOn_error rfl
  · rename_i letter digits begins
    split
    · exact movesOn_ok (further 1)
    · split
      · rename_i length counted
        refine ((numberedEscape_yields letter length digits).mono
          (fun _ holds => holds) ?_).bind fun _ _ => further _
        rintro _ ⟨code, written, far, rfl⟩
        rcases eq_U_of_far counted written far with ⟨rfl, rfl⟩
        have whole : '\\' :: 'U' :: digits = cursor.rest := by
          rw [mark, ← behind, begins]
        exact .escape (.written ⟨[], whole⟩ written far)
      · split
        · refine (unbroken_blankLines _ _).bind fun _ => ?_
          exact (Cursor.advance_suffix _ _).trans (further 1)
        · exact movesOn_error rfl

theorem movesOn_piece
    (style : Style)
    (cursor : Cursor) :
    MovesOn cursor (piece style cursor) := by
  unfold piece
  split
  · exact movesOn_error rfl
  · rename_i character rest begins
    split
    · exact (movesOn_gap cursor).bind fun _ behind => behind
    · split
      · split
        · exact movesOn_ok (cursor.advance_suffix 2)
        · exact movesOn_ok (cursor.advance_suffix 1)
      · split
        · exact movesOn_ok (cursor.advance_suffix 1)
        · split
          · rename_i mark
            rw [Bool.and_eq_true] at mark
            rw [eq_of_beq mark.2] at begins
            exact (movesOn_escape begins).bind fun _ behind => behind
          · exact movesOn_ok (cursor.advance_suffix 1)

theorem movesOn_pieces
    (style : Style)
    (fuel : Nat)
    (cursor : Cursor) :
    MovesOn cursor (pieces style fuel cursor) := by
  induction fuel generalizing cursor with
  | zero => exact movesOn_error rfl
  | succ fuel induction =>
      unfold pieces
      refine (movesOn_piece style cursor).bind ?_
      rintro ⟨text?, later⟩ behind
      dsimp only at behind ⊢
      split
      · exact movesOn_ok behind
      · exact ((induction later).from_earlier behind).bind fun _ further => further

theorem movesOn_read
    (style : Style)
    (cursor : Cursor) :
    MovesOn cursor (read style cursor) :=
  (movesOn_pieces style _ _).from_earlier (cursor.advance_suffix 1)

end Flow

namespace Block

theorem unbroken_increment?
    (next : Option Char) :
    Unbroken (increment? next) := by
  unfold increment?
  split
  · split
    · exact yields_error rfl
    · split
      · exact yields_ok trivial
      · exact yields_ok trivial
  · exact yields_ok trivial

theorem movesOn_header
    (cursor : Cursor) :
    MovesOn cursor (header cursor) := by
  have first := cursor.advance_suffix 1
  unfold header
  split
  · refine (unbroken_increment? _).bind fun _ => ?_
    exact (Cursor.advance_suffix _ _).trans first
  · refine (unbroken_increment? _).bind fun increment? => ?_
    split
    · exact movesOn_ok (List.suffix_refl _)
    · dsimp only
      split
      · exact movesOn_ok ((Cursor.advance_suffix _ 1).trans first)
      · exact movesOn_ok first

theorem endOfHeader_yields
    (cursor : Cursor) :
    Yields (fun next => next.rest <:+ cursor.rest) (fun _ => False)
      (endOfHeader cursor) := by
  have next : (if cursor.skipSpaces.peek? == some '#' then cursor.skipSpaces.skipLine
      else cursor.skipSpaces).rest <:+ cursor.rest := by
    split
    · exact (Cursor.skipLine_suffix _).trans cursor.skipSpaces_suffix
    · exact cursor.skipSpaces_suffix
  unfold endOfHeader
  dsimp only
  generalize (if cursor.skipSpaces.peek? == some '#' then cursor.skipSpaces.skipLine
      else cursor.skipSpaces) = last at next ⊢
  split
  · exact yields_ok ((Cursor.skipLineBreak_suffix last).trans next)
  · exact yields_error rfl

theorem skipBlankLines_suffix
    (indent : Nat)
    (cursor : Cursor) :
    (skipBlankLines indent cursor).2.rest <:+ cursor.rest :=
  cursor.advance_suffix _

theorem lines_suffix
    (folded : Bool)
    (indent fuel : Nat)
    (lastBreak breaks : List Char)
    (cursor : Cursor) :
    (lines folded indent fuel lastBreak breaks cursor).cursor.rest <:+ cursor.rest := by
  induction fuel generalizing lastBreak breaks cursor with
  | zero => exact List.suffix_refl _
  | succ fuel induction =>
      have line := cursor.spanWhile_suffix fun character => !isBreak character
      unfold lines
      dsimp only
      split
      · generalize (cursor.spanWhile fun character => !isBreak character) = spanned
          at line ⊢
        have blank {next : Cursor} (behind : next.rest <:+ cursor.rest) :=
          (skipBlankLines_suffix indent next).trans behind
        split
        · rename_i found
          have behind := blank ((Cursor.lineBreak?_suffix found).trans line)
          split
          · exact (induction _ _ _).trans behind
          · exact behind
        · have behind := blank line
          split
          · exact (induction _ _ _).trans behind
          · exact behind
      · exact List.suffix_refl _

theorem movesOn_read
    (folded : Bool)
    (outer : Int)
    (cursor : Cursor) :
    MovesOn cursor (read folded outer cursor) := by
  unfold read
  dsimp only
  refine ((movesOn_header _).from_earlier (cursor.advance_suffix 1)).bind ?_
  intro header behind
  split
  · exact yields_throw rfl
  · refine Yields.bind ((endOfHeader_yields _).mono
      (fun _ further => further.trans behind) (fun _ => False.elim)) ?_
    intro next further
    refine movesOn_ok ((lines_suffix _ _ _ _ _ _).trans ?_)
    split
    · exact (next.advance_suffix _).trans further
    · exact (skipBlankLines_suffix _ next).trans further

end Block

namespace Plain

theorem gap_suffix
    (cursor : Cursor) :
    (gap cursor).cursor.rest <:+ cursor.rest := by
  have spaces := cursor.spanWhile_suffix (· == ' ')
  unfold gap
  dsimp only
  split
  · exact spaces
  · rename_i found
    have broken := (Cursor.lineBreak?_suffix found).trans spaces
    split
    · exact broken
    · split
      · exact (Cursor.advance_suffix _ _).trans broken
      · exact (Cursor.advance_suffix _ _).trans broken

theorem pieces_suffix
    (inFlow : Bool)
    (indent : Int)
    (fuel : Nat)
    (reading : Reading) :
    (pieces inFlow indent fuel reading).cursor.rest <:+ reading.cursor.rest := by
  induction fuel generalizing reading with
  | zero => exact List.suffix_refl _
  | succ fuel induction =>
      have gap := fun count => (gap_suffix (reading.cursor.advance count)).trans
        (reading.cursor.advance_suffix count)
      unfold pieces
      dsimp only
      split
      · exact List.suffix_refl _
      · split
        · exact (induction _).trans (gap _)
        · exact gap _

theorem read_suffix
    (inFlow : Bool)
    (indent : Int)
    (cursor : Cursor) :
    (read inFlow indent cursor).cursor.rest <:+ cursor.rest :=
  pieces_suffix inFlow indent _ _

end Plain

end Delimit.Yaml
