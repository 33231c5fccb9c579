import Delimit.Proofs.EntrySteps
import Delimit.Proofs.WrittenNumbers
import Delimit.Transcript.Written

/-!
# The tokens of a written transcript

A transcript is written as a mapping with a list of mappings in it.  Its tokens are
read line by line: every line of a mapping is an entry, and a new item closes the
mapping of the item before it.
-/

namespace Delimit.Transcript

open Yaml (Style)
open Yaml.Written (readBack)

def textTokens
    (name : String)
    (text : List Char) :
    List Yaml.Token :=
  [ .key, .scalar true name.toList, .value,
    .scalar (Style.ofText text == .plain) (readBack text) ]

def numberTokens
    (name : String)
    (number : Nat) :
    List Yaml.Token :=
  [.key, .scalar true name.toList, .value, .scalar true (Nat.toDigits 10 number)]

def fieldTokens
    (unit : UnitRecord) :
    List Yaml.Token :=
  numberTokens "index" unit.index ++ numberTokens "first-line" unit.firstLine ++
    numberTokens "last-line" unit.lastLine ++ textTokens "status" unit.status.label.toList ++
    textTokens "text" unit.text

def unitTokens
    (unit : UnitRecord) :
    List Yaml.Token :=
  .blockEntry :: .blockMappingStart :: fieldTokens unit ++ [.blockEnd]

def unitsTokens
    (units : List UnitRecord) :
    List Yaml.Token :=
  if units.isEmpty then
    [.flowSequenceStart, .flowSequenceEnd]
  else
    units.flatMap unitTokens

def tokens
    (transcript : Transcript) :
    List Yaml.Token :=
  .blockMappingStart :: textTokens "source" transcript.source ++
    [.key, .scalar true "units".toList, .value] ++ unitsTokens transcript.units ++
    [.blockEnd, .textEnd]

end Delimit.Transcript

namespace Delimit.Yaml.Reader

open Transcript (textTokens numberTokens fieldTokens unitTokens unitsTokens writtenText
  writtenNumber writtenUnit)
open Written (Run readBack)

/-! ## Lines -/

theorem lineGoesOn_key
    (count : Nat)
    {name : List Char}
    (key : isKeyName name = true)
    (rest : List Char) :
    LineGoesOn count (name ++ rest) := by
  have plain := isPlainWord_of_isKeyName key
  obtain ⟨character, later, rfl⟩ := List.exists_cons_of_ne_nil plain.filled
  have letter : character.isAlpha = true := by
    simp only [isKeyName, Bool.and_eq_true, List.head?_cons, Option.any_some] at key
    exact key.1.1
  have other : ∀ {mark : Char}, mark.isAlpha = false → character ≠ mark := by
    rintro mark noLetter rfl
    rw [letter] at noLetter
    contradiction
  refine ⟨?_, ?_, ?_⟩
  · intro first head
    rw [← Option.some.inj head]
    exact ⟨plain.inner _ List.mem_cons_self, other (by decide)⟩
  · cases count with
    | zero =>
        rw [List.replicate_zero, List.nil_append]
        unfold startsWithDocumentMark
        split
        · rename_i equality
          exact absurd (List.cons.inj equality).1 (other (by decide))
        · rename_i equality
          exact absurd (List.cons.inj equality).1 (other (by decide))
        · rfl
    | succ count => rfl
  · intro mark
    exact absurd (Option.some.inj mark) (other (by decide))

theorem interruptsAfter_of_not_mem
    {previous : Char}
    {text : List Char}
    (colon : ':' ∉ text)
    (hash : '#' ∉ text) :
    Style.interruptsAfter previous text = false := by
  induction text generalizing previous with
  | nil => rfl
  | cons character text induction =>
      rw [List.mem_cons, not_or] at colon hash
      rw [Style.interruptsAfter, induction colon.2 hash.2]
      simp [Style.interrupts, Ne.symm colon.1, Ne.symm hash.1]

/-- The digits of a number are one plain word. -/
theorem joined_digits
    (number : Nat) :
    Written.Joined [.word (Nat.toDigits 10 number)] ∧
      Style.hasIndicators (Nat.toDigits 10 number) = false := by
  have decimal := Yaml.isDecimal_toDigits number
  generalize Nat.toDigits 10 number = text at *
  have colon : ':' ∉ text := decimal.not_mem (by decide)
  have hash : '#' ∉ text := decimal.not_mem (by decide)
  refine ⟨.word ⟨decimal.1,
    fun digit member => isSeparator_of_class Char.isDigit (by decide) (decimal.2 digit member),
    fun first => hash (List.mem_of_head? first),
    fun last => colon (List.mem_of_getLast? last)⟩, ?_⟩
  obtain ⟨digit, rest, rfl⟩ := List.exists_cons_of_ne_nil decimal.1
  have first := decimal.2 digit List.mem_cons_self
  have noMark : Style.startsLikeDocumentMark (digit :: rest) = false := by
    have noDash : digit ≠ '-' := by rintro rfl; exact absurd first (by decide)
    have noDot : digit ≠ '.' := by rintro rfl; exact absurd first (by decide)
    simp [Style.startsLikeDocumentMark, List.isPrefixOf, noDash.symm, noDot.symm]
  rw [Style.hasIndicators, noMark, leadsBadly_of_class Char.isDigit (by decide) first,
    interruptsAfter_of_not_mem (fun member => colon (.tail _ member))
      (fun member => hash (.tail _ member))]
  rfl

section

variable
    {reader : Reader}
    {tokens : List Yaml.Token}
    {indent : Int}
    {outer : List Int}
    {column count : Nat}
    {tail : List Char}

theorem steps_writtenText
    {name : String}
    (key : isKeyName name.toList = true)
    (inside : indent ≤ column)
    (narrow : column + 3 ≤ Written.lineWidth)
    (level : count ≤ column)
    (goesOn : LineGoesOn count tail)
    (text : List Char)
    (atLine : AtLine reader tokens indent outer column
      (writtenText column name text ++ (List.replicate count ' ' ++ tail))) :
    ∃ next,
      Steps reader next ∧
        AtLine next ((textTokens name text).reverse ++ (openingTokens indent column ++ tokens))
          column (openedAround indent outer column) count tail := by
  have split : writtenText column name text ++ (List.replicate count ' ' ++ tail) =
      name.toList ++ ':' :: (Written.value (column + 2) (column + (name.toList ++ [':']).length)
        text ++ '\n' :: (List.replicate count ' ' ++ tail)) := by
    simp [writtenText]
  rw [split] at atLine
  have ends : endsWord (Written.value (column + 2) (column + (name.toList ++ [':']).length)
      text ++ '\n' :: (List.replicate count ' ' ++ tail)).head? = true := by
    unfold Written.value
    split <;> rfl
  obtain ⟨between, toValue, atValue⟩ := steps_key key inside ends atLine
  obtain ⟨next, toLine, atNext⟩ := steps_value (Nat.lt_add_of_pos_right (by decide)) narrow level
    goesOn _ text atValue
  exact ⟨next, toValue.trans toLine, atNext⟩

theorem steps_writtenNumber
    {name : String}
    (key : isKeyName name.toList = true)
    (inside : indent ≤ column)
    (level : count ≤ column)
    (goesOn : LineGoesOn count tail)
    (number : Nat)
    (atLine : AtLine reader tokens indent outer column
      (writtenNumber name number ++ (List.replicate count ' ' ++ tail))) :
    ∃ next,
      Steps reader next ∧
        AtLine next
          ((numberTokens name number).reverse ++ (openingTokens indent column ++ tokens))
          column (openedAround indent outer column) count tail := by
  have split : writtenNumber name number ++ (List.replicate count ' ' ++ tail) =
      name.toList ++ ':' :: (' ' ::
        (Written.plainRuns (column + 2) [.word (Nat.toDigits 10 number)] 0 ++
          '\n' :: (List.replicate count ' ' ++ tail))) := by
    simp [writtenNumber, Written.plainRuns, Written.inline, Run.characters]
  rw [split] at atLine
  obtain ⟨joined, allowed⟩ := joined_digits number
  obtain ⟨between, toValue, atValue⟩ := steps_key key inside rfl atLine
  obtain ⟨next, toLine, atNext⟩ := steps_plain (Nat.lt_add_of_pos_right (by decide)) level
    goesOn joined (by rwa [List.flatMap_singleton]) 0 atValue
  rw [List.flatMap_singleton] at atNext
  exact ⟨next, toValue.trans toLine, atNext⟩

end

/-! ## Units -/

/--
The collections that are open where an item begins, and the tokens once the mapping of
the item before it, if there is one, is closed.
-/
inductive AtItem : List Yaml.Token → Int → List Int → List Yaml.Token → Prop where
  | first
      (tokens : List Yaml.Token) :
      AtItem tokens 0 [-1] tokens
  | later
      (tokens : List Yaml.Token) :
      AtItem tokens 2 [0, -1] (.blockEnd :: tokens)

theorem AtItem.unwindIndent
    {tokens closed : List Yaml.Token}
    {indent : Int}
    {outer : List Int}
    (atItem : AtItem tokens indent outer closed)
    (cursor : Cursor)
    (allowsKey : Bool) :
    (block cursor tokens indent outer allowsKey).unwindIndent 0 =
      block cursor closed 0 [-1] allowsKey := by
  cases atItem with
  | first => exact unwindIndent_of_le (by simp)
  | later => exact unwindIndent_block_cons tokens allowsKey (by decide) (by decide)

theorem lineGoesOn_item
    (rest : List Char) :
    LineGoesOn 0 ('-' :: ' ' :: rest) where
  atToken := by
    intro character head
    rw [← Option.some.inj head]
    decide
  unmarked := rfl
  noOrderMark := by simp

theorem lineGoesOn_nil :
    LineGoesOn 0 [] where
  atToken := nofun
  unmarked := rfl
  noOrderMark := by simp

/-- The mark of an item is read, and a mapping can begin behind it. -/
theorem steps_item
    {reader : Reader}
    {tokens closed : List Yaml.Token}
    {indent : Int}
    {outer : List Int}
    (atItem : AtItem tokens indent outer closed)
    {rest : List Char}
    (atToken : AtToken rest)
    (atLine : AtLine reader tokens indent outer 0 ('-' :: ' ' :: rest)) :
    ∃ next,
      Steps reader next ∧ AtLine next (.blockEntry :: closed) 0 [-1] 2 rest := by
  obtain ⟨cursor, idle, next, column⟩ := atLine
  have behind : (cursor.advance 1).rest = ' ' :: rest := by
    rw [Cursor.rest_advance, next]
    rfl
  have read : reader.readNext =
      .ok (block (cursor.advance 1) (.blockEntry :: closed) 0 [-1] true) := by
    have second : cursor.ahead? 1 = some ' ' := by
      rw [Cursor.ahead?, next]
      rfl
    have unmarked : startsWithDocumentMark cursor.rest = false := by
      rw [next]
      rfl
    have entry : (block cursor closed 0 [-1] true).readFrom '-' =
        (block cursor closed 0 [-1] true).readBlockEntry := by
      simp [readFrom, second, unmarked, endsWord, isSeparator, isSpaceOrTab]
    have noNew : (block cursor closed 0 [-1] true).openHere .blockSequenceStart =
        block cursor closed 0 [-1] true := by
      rw [openHere, if_neg (by simp [opensAt, column])]
    rw [readNext_eq idle rfl (by rw [cursor_block, next]), cursor_block, column]
    change ((block cursor tokens indent outer true).unwindIndent 0).readFrom '-' = _
    rw [atItem.unwindIndent cursor true, entry]
    unfold readBlockEntry
    rw [noNew]
    rfl
  have shorter := rest_skipIdle reader
  rw [idle, cursor_block, next] at shorter
  have dash : (cursor.advance 1).column = 1 := by
    rw [Cursor.advance_succ next, Cursor.advance_zero]
    simp [Cursor.step, isBreak, column]
  refine ⟨_, .single ⟨read, rfl, ?_⟩, _,
    skipIdle_space _ true atToken behind, ?_, ?_⟩
  · rw [cursor_block, behind]
    exact shorter
  · rw [Cursor.rest_advance, behind]
    rfl
  · rw [Cursor.column_advance_spaces 1 behind, dash]

/-- A unit is the mark of an item and its fields, each on a line that is indented as far. -/
theorem writtenUnit_append
    (unit : UnitRecord)
    (tail : List Char) :
    writtenUnit unit ++ tail =
      '-' :: ' ' :: (writtenNumber "index" unit.index ++ (List.replicate 2 ' ' ++
        (writtenNumber "first-line" unit.firstLine ++ (List.replicate 2 ' ' ++
          (writtenNumber "last-line" unit.lastLine ++ (List.replicate 2 ' ' ++
            (writtenText 2 "status" unit.status.label.toList ++ (List.replicate 2 ' ' ++
              (writtenText 2 "text" unit.text ++ (List.replicate 0 ' ' ++ tail)))))))))) := by
  have dash : "- ".toList = ['-', ' '] := rfl
  have pad : "  ".toList = List.replicate 2 ' ' := rfl
  unfold writtenUnit
  rw [dash, pad]
  simp only [List.append_assoc, List.cons_append, List.nil_append, List.replicate_zero]

theorem lineGoesOn_writtenNumber
    (name : String)
    (key : isKeyName name.toList = true)
    (number : Nat)
    (rest : List Char) :
    LineGoesOn 2 (writtenNumber name number ++ rest) := by
  rw [writtenNumber, List.append_assoc, List.append_assoc]
  exact lineGoesOn_key 2 key _

theorem lineGoesOn_writtenText
    (name : String)
    (key : isKeyName name.toList = true)
    (text rest : List Char) :
    LineGoesOn 2 (writtenText 2 name text ++ rest) := by
  rw [writtenText, List.append_assoc, List.append_assoc, List.append_assoc]
  exact lineGoesOn_key 2 key _

/-- A unit is read as an item, and its mapping stays open. -/
theorem steps_writtenUnit
    {reader : Reader}
    {tokens closed : List Yaml.Token}
    {indent : Int}
    {outer : List Int}
    (atItem : AtItem tokens indent outer closed)
    {tail : List Char}
    (goesOn : LineGoesOn 0 tail)
    (unit : UnitRecord)
    (atLine : AtLine reader tokens indent outer 0 (writtenUnit unit ++ tail)) :
    ∃ next,
      Steps reader next ∧
        AtLine next
          ((.blockEntry :: .blockMappingStart :: fieldTokens unit).reverse ++ closed)
          2 [0, -1] 0 tail := by
  rw [writtenUnit_append] at atLine
  have inside : (0 : Int) ≤ (2 : Nat) := by decide
  have here : ((2 : Nat) : Int) ≤ (2 : Nat) := Int.le_refl _
  have fits : 2 + 3 ≤ Written.lineWidth := by decide
  obtain ⟨atFields, toFields, atLine⟩ := steps_item atItem
    (lineGoesOn_writtenNumber "index" (by decide) _ _).atToken atLine
  obtain ⟨second, toSecond, atLine⟩ := steps_writtenNumber (by decide) inside (by decide)
    (lineGoesOn_writtenNumber "first-line" (by decide) _ _) unit.index atLine
  obtain ⟨third, toThird, atLine⟩ := steps_writtenNumber (by decide) here (by decide)
    (lineGoesOn_writtenNumber "last-line" (by decide) _ _) unit.firstLine atLine
  obtain ⟨fourth, toFourth, atLine⟩ := steps_writtenNumber (by decide) here (by decide)
    (lineGoesOn_writtenText "status" (by decide) _ _) unit.lastLine atLine
  obtain ⟨fifth, toFifth, atLine⟩ := steps_writtenText (by decide) here fits (by decide)
    (lineGoesOn_writtenText "text" (by decide) _ _) unit.status.label.toList atLine
  obtain ⟨next, toNext, atLine⟩ := steps_writtenText (by decide) here fits (by decide)
    goesOn unit.text atLine
  refine ⟨next, toFields.trans (toSecond.trans (toThird.trans (toFourth.trans
    (toFifth.trans toNext)))), ?_⟩
  have opens : openingTokens 0 2 = [.blockMappingStart] := rfl
  have opened : ∀ column : Nat, openingTokens column column = [] := fun column => by
    rw [openingTokens, if_neg (Int.lt_irrefl _)]
  have all : (.blockEntry :: .blockMappingStart :: fieldTokens unit).reverse ++ closed =
      (textTokens "text" unit.text).reverse ++
        ((textTokens "status" unit.status.label.toList).reverse ++
          ((numberTokens "last-line" unit.lastLine).reverse ++
            ((numberTokens "first-line" unit.firstLine).reverse ++
              ((numberTokens "index" unit.index).reverse ++
                .blockMappingStart :: .blockEntry :: closed)))) := by
    simp only [fieldTokens, List.reverse_cons, List.reverse_append, List.append_assoc,
      List.cons_append, List.nil_append]
  rw [opens, opened, List.nil_append, List.nil_append, List.nil_append, List.nil_append] at atLine
  rw [all]
  exact atLine

/-- Units are read as items, one after the other. -/
theorem steps_writtenUnits
    {reader : Reader}
    {tokens closed : List Yaml.Token}
    {indent : Int}
    {outer : List Int}
    (atItem : AtItem tokens indent outer closed)
    (units : List UnitRecord)
    (atLine : AtLine reader tokens indent outer 0 (units.flatMap writtenUnit)) :
    ∃ next last indent outer,
      Steps reader next ∧
        AtLine next last indent outer 0 [] ∧
          AtItem last indent outer ((units.flatMap unitTokens).reverse ++ closed) := by
  induction units generalizing reader tokens indent outer closed with
  | nil => exact ⟨reader, tokens, indent, outer, .refl, atLine, atItem⟩
  | cons unit units induction =>
      have goesOn : LineGoesOn 0 (units.flatMap writtenUnit) := by
        cases units with
        | nil => exact lineGoesOn_nil
        | cons unit units => exact lineGoesOn_item _
      rw [List.flatMap_cons] at atLine
      obtain ⟨between, toBetween, atLine⟩ := steps_writtenUnit atItem goesOn unit atLine
      obtain ⟨next, last, indent, outer, toNext, atEnd, atItem⟩ := induction (.later _) atLine
      refine ⟨next, last, indent, outer, toBetween.trans toNext, atEnd, ?_⟩
      have all : ((unit :: units).flatMap unitTokens).reverse ++ closed =
          (units.flatMap unitTokens).reverse ++
            .blockEnd :: ((.blockEntry :: .blockMappingStart :: fieldTokens unit).reverse ++
              closed) := by
        simp only [List.flatMap_cons, unitTokens, List.reverse_append, List.reverse_cons,
          List.append_assoc, List.cons_append, List.nil_append]
      rw [all]
      exact atItem

/-! ## Transcripts -/

/-- The list of units is read, up to the end of the text. -/
theorem steps_units
    {reader : Reader}
    {tokens : List Yaml.Token}
    (units : List UnitRecord)
    (atLine : AtLine reader tokens 0 [-1] 0
      (if units.isEmpty then "units: []\n".toList
        else "units:\n".toList ++ units.flatMap writtenUnit)) :
    ∃ next last indent outer,
      Steps reader next ∧
        AtLine next last indent outer 0 [] ∧
          AtItem last indent outer
            ((.key :: .scalar true "units".toList :: .value :: unitsTokens units).reverse ++
              tokens) := by
  have key : isKeyName "units".toList = true := by decide
  have here : (0 : Int) ≤ (0 : Nat) := Int.le_refl _
  have opened : openingTokens 0 0 = [] := rfl
  cases units with
  | nil =>
      have split : "units: []\n".toList =
          "units".toList ++ ':' :: (' ' :: '[' :: ']' :: '\n' :: (List.replicate 0 ' ' ++ [])) := rfl
      rw [List.isEmpty_nil, if_pos rfl, split] at atLine
      obtain ⟨between, toValue, atValue⟩ := steps_key key here rfl atLine
      obtain ⟨next, toEnd, atEnd⟩ := steps_brackets lineGoesOn_nil atValue
      exact ⟨next, _, _, _, toValue.trans toEnd, atEnd, .first _⟩
  | cons unit units =>
      have split : "units:\n".toList ++ (unit :: units).flatMap writtenUnit =
          "units".toList ++ ':' :: ('\n' :: (List.replicate 0 ' ' ++
            (unit :: units).flatMap writtenUnit)) := rfl
      rw [List.isEmpty_cons, if_neg (by simp), split] at atLine
      obtain ⟨between, toValue, cursor, rfl, next, -⟩ := steps_key key here rfl atLine
      obtain ⟨next, last, indent, outer, toEnd, atEnd, atItem⟩ :=
        steps_writtenUnits (.first _) (unit :: units)
          (atLine_newLine _ _ _ _ (lineGoesOn_item _) next)
      refine ⟨next, last, indent, outer, toValue.trans toEnd, atEnd, ?_⟩
      have all : (.key :: .scalar true "units".toList :: .value ::
            unitsTokens (unit :: units)).reverse ++ tokens =
          ((unit :: units).flatMap unitTokens).reverse ++
            .value :: .scalar true "units".toList :: .key :: tokens := by
        rw [unitsTokens, List.isEmpty_cons, if_neg (by simp)]
        simp only [List.reverse_cons, List.append_assoc, List.cons_append, List.nil_append]
      rw [all]
      exact atItem

/-- At the end of the text, the open collections are closed. -/
theorem readNext_end
    {reader : Reader}
    {tokens closed : List Yaml.Token}
    {indent : Int}
    {outer : List Int}
    (atItem : AtItem tokens indent outer closed)
    (atLine : AtLine reader tokens indent outer 0 []) :
    ∃ next,
      reader.readNext = .ok next ∧ next.tokens = .textEnd :: .blockEnd :: closed := by
  obtain ⟨cursor, idle, ended, column⟩ := atLine
  have read := readNext_eq_readEnd idle rfl ended
  have outermost : (block cursor closed 0 [-1] true).unwindIndent (-1) =
      block cursor (.blockEnd :: closed) (-1) [] true :=
    unwindIndent_block_cons closed true (by decide) (by decide)
  rw [cursor_block, column] at read
  change _ = ((block cursor tokens indent outer true).unwindIndent 0).readEnd at read
  rw [atItem.unwindIndent cursor true] at read
  unfold readEnd at read
  rw [outermost] at read
  exact ⟨_, read, rfl⟩

end Delimit.Yaml.Reader

namespace Delimit.Transcript

open Yaml Yaml.Reader

theorem tokensOf_written
    (transcript : Transcript) :
    tokensOf transcript.written = transcript.tokens := by
  have key : isKeyName "source".toList = true := by decide
  have outside : (-1 : Int) ≤ (0 : Nat) := by decide
  have unitsKey : isKeyName "units".toList = true := by decide
  obtain ⟨rest, units⟩ : ∃ rest, rest =
      if transcript.units.isEmpty then "units: []\n".toList
        else "units:\n".toList ++ transcript.units.flatMap writtenUnit := ⟨_, rfl⟩
  have goesOn : LineGoesOn 0 rest := by
    rw [units]
    split
    · exact lineGoesOn_key 0 unitsKey ": []\n".toList
    · exact lineGoesOn_key 0 unitsKey (":\n".toList ++ transcript.units.flatMap writtenUnit)
  have whole : transcript.written =
      writtenText 0 "source" transcript.source ++ (List.replicate 0 ' ' ++ rest) := by
    rw [units]
    rfl
  have begins : LineGoesOn 0 transcript.written := by
    rw [whole, writtenText, List.append_assoc, List.append_assoc, List.append_assoc]
    exact lineGoesOn_key 0 key _
  have atSource : AtLine { cursor := { rest := transcript.written } } [] (-1) [] 0
      (writtenText 0 "source" transcript.source ++ (List.replicate 0 ' ' ++ rest)) := by
    refine ⟨{ rest := transcript.written }, skipIdle_of_atToken ?_ ?_, whole, rfl⟩
    · change AtToken transcript.written
      exact begins.atToken
    · exact begins.noOrderMark
  obtain ⟨second, toSecond, atUnits⟩ :=
    steps_writtenText key outside (by decide) (by decide) goesOn transcript.source atSource
  rw [units] at atUnits
  obtain ⟨last, tokens, indent, outer, toLast, atEnd, atItem⟩ :=
    steps_units transcript.units atUnits
  obtain ⟨ended, read, all⟩ := readNext_end atItem atEnd
  have steps := toSecond.trans toLast
  obtain ⟨fuel, enough, same⟩ := readAll_of_steps steps (Nat.lt_succ_self _)
  obtain ⟨fuel, rfl⟩ := Nat.exists_eq_add_of_lt (Nat.lt_of_le_of_lt (Nat.zero_le _) enough)
  rw [tokensOf, same, readAll, read]
  dsimp only
  have opened : openingTokens (-1) 0 = [.blockMappingStart] := rfl
  rw [isDone, all, if_pos (by rfl), opened]
  simp only [Transcript.tokens, List.reverse_cons, List.reverse_append, List.reverse_reverse,
    List.reverse_nil, List.append_assoc, List.cons_append, List.nil_append, List.append_nil]

end Delimit.Transcript
