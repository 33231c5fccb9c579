import Delimit.Proofs.PlainReading
import Delimit.Proofs.QuotedWriting
import Delimit.Yaml.Token.Reading
import Mathlib.Logic.Relation

/-!
# Steps of a reader

A reader takes one token at a time, and every token takes some of the text, so the
tokens of a text are those that a reader has when its steps have come to the end.
What a token becomes depends on the reader only once the blanks in front of it are
skipped; it does not matter where the scalar before them has ended.

The steps here are those over the entries of a block mapping: a key with its colon,
and a text as the value behind it.
-/

namespace Delimit.Yaml.Reader

/-- A reader outside flow collections that remembers no key. -/
def block
    (cursor : Cursor)
    (tokens : List Token)
    (indent : Int)
    (outer : List Int)
    (allowsKey : Bool) :
    Reader :=
  { cursor, tokens, indent, outerIndents := outer, allowsKey }

section

variable
    (cursor : Cursor)
    (tokens : List Token)
    (indent : Int)
    (outer : List Int)
    (allowsKey : Bool)

@[simp]
theorem cursor_block :
    (block cursor tokens indent outer allowsKey).cursor = cursor := rfl

@[simp]
theorem indent_block :
    (block cursor tokens indent outer allowsKey).indent = indent := rfl

@[simp]
theorem inFlow_block :
    (block cursor tokens indent outer allowsKey).inFlow = false := rfl

end

/-- A token is taken from the text, and it is not the end of the text. -/
def Step
    (reader next : Reader) :
    Prop :=
  reader.readNext = .ok next ∧
    next.isDone = false ∧
    next.cursor.rest.length < reader.cursor.rest.length

def Steps : Reader → Reader → Prop :=
  Relation.ReflTransGen Step

/-- Fuel for the text that is left is enough, however many steps were made. -/
theorem readAll_of_steps
    {reader next : Reader}
    (steps : Steps reader next)
    {fuel : Nat}
    (enough : reader.cursor.rest.length < fuel) :
    ∃ left,
      next.cursor.rest.length < left ∧ readAll fuel reader = readAll left next := by
  induction steps using Relation.ReflTransGen.head_induction_on generalizing fuel with
  | refl => exact ⟨fuel, enough, rfl⟩
  | @head reader between step _ induction =>
      obtain ⟨read, going, shorter⟩ := step
      obtain ⟨fuel, rfl⟩ := Nat.exists_eq_add_of_lt (Nat.lt_of_le_of_lt (Nat.zero_le _) enough)
      obtain ⟨left, more, same⟩ := @induction (0 + fuel) (by omega)
      refine ⟨left, more, ?_⟩
      rw [readAll, read]
      dsimp only
      rw [going, if_neg (by simp), same]

/-! ## In front of a token -/

/-- A text begins with a token, or has none left. -/
def AtToken
    (text : List Char) :
    Prop :=
  ∀ character ∈ text.head?, isSeparator character = false ∧ character ≠ '#'

theorem idleLength_spaces
    (count : Nat)
    {rest : List Char}
    (atToken : AtToken rest) :
    idleLength false (List.replicate count ' ' ++ rest) = (count, false) := by
  induction count with
  | zero =>
      cases rest with
      | nil => rfl
      | cons character rest =>
          obtain ⟨inner, noHash⟩ := atToken character rfl
          simp only [isSeparator, isSpaceOrTab, Bool.or_eq_false_iff] at inner
          rw [List.replicate_zero, List.nil_append, idleLength, if_neg (by simp [inner.2]),
            if_neg (by simp [noHash]), if_neg (by simp [inner.1.1])]
  | succ count induction =>
      rw [List.replicate_succ, List.cons_append, idleLength, if_neg (by decide),
        if_neg (by decide), if_pos (by decide), induction]

theorem idleLength_newLine
    (count : Nat)
    {rest : List Char}
    (atToken : AtToken rest) :
    idleLength false ('\n' :: (List.replicate count ' ' ++ rest)) = (count + 1, true) := by
  rw [idleLength, if_pos (by decide), idleLength_spaces count atToken]

theorem skipIdle_of_atToken
    {reader : Reader}
    (atToken : AtToken reader.cursor.rest)
    (unmarked : reader.cursor.peek? ≠ some '\uFEFF') :
    reader.skipIdle = reader := by
  have idle := idleLength_spaces 0 atToken
  rw [List.replicate_zero, List.nil_append] at idle
  unfold skipIdle
  rw [if_neg (by simp [unmarked])]
  dsimp only
  rw [idle]
  simp

/-- Nothing ends before a token that is indented as far as its collection. -/
theorem unwindIndent_of_le
    {reader : Reader}
    {column : Int}
    (inside : reader.indent ≤ column) :
    reader.unwindIndent column = reader := by
  unfold unwindIndent
  split
  · rfl
  · unfold unwindFrom
    split
    · rfl
    · exact if_neg (Int.not_lt.mpr inside)

section

variable
    {cursor : Cursor}
    (tokens : List Token)
    {indent : Int}
    {outer : List Int}
    {rest : List Char}

theorem skipIdle_space
    (allowsKey : Bool)
    (atToken : AtToken rest)
    (next : cursor.rest = ' ' :: rest) :
    (block cursor tokens indent outer allowsKey).skipIdle =
      block (cursor.advance 1) tokens indent outer allowsKey := by
  have idle := idleLength_spaces 1 atToken
  unfold skipIdle block
  rw [if_neg (by simp [Cursor.peek?, next])]
  dsimp only
  rw [next, show ' ' :: rest = List.replicate 1 ' ' ++ rest from rfl, idle]
  simp

theorem skipIdle_newLine
    (count : Nat)
    (allowsKey : Bool)
    (atToken : AtToken rest)
    (next : cursor.rest = '\n' :: (List.replicate count ' ' ++ rest)) :
    (block cursor tokens indent outer allowsKey).skipIdle =
      block (cursor.advance (count + 1)) tokens indent outer true := by
  have idle := idleLength_newLine count atToken
  unfold skipIdle block
  rw [if_neg (by simp [Cursor.peek?, next])]
  dsimp only
  rw [next, idle]
  simp [inFlow]

/-- A collection ends before a token that is indented less than it. -/
theorem unwindIndent_block_cons
    (allowsKey : Bool)
    {next column : Int}
    (outside : column < indent)
    (inside : next ≤ column) :
    (block cursor tokens indent (next :: outer) allowsKey).unwindIndent column =
      block cursor (.blockEnd :: tokens) next outer allowsKey := by
  have again : (block cursor (.blockEnd :: tokens) next outer allowsKey).unwindIndent column =
      block cursor (.blockEnd :: tokens) next outer allowsKey :=
    unwindIndent_of_le inside
  unfold unwindIndent at again ⊢
  rw [if_neg (by simp [block, inFlow])] at again ⊢
  rw [← again]
  change unwindFrom column (next :: outer) _ = _
  rw [unwindFrom]
  exact if_pos outside

end

theorem cursor_unwindFrom
    (column : Int)
    (outer : List Int)
    (reader : Reader) :
    (unwindFrom column outer reader).cursor = reader.cursor := by
  induction outer generalizing reader with
  | nil => rfl
  | cons next outer induction =>
      rw [unwindFrom]
      split
      · rw [induction]
        rfl
      · rfl

theorem cursor_unwindIndent
    (reader : Reader)
    (column : Int) :
    (reader.unwindIndent column).cursor = reader.cursor := by
  unfold unwindIndent
  split
  · rfl
  · exact cursor_unwindFrom column _ reader

theorem rest_skipIdle
    (reader : Reader) :
    reader.skipIdle.cursor.rest.length ≤ reader.cursor.rest.length := by
  unfold skipIdle
  dsimp only
  rw [Cursor.rest_advance, List.length_drop]
  split
  · rw [Cursor.rest_advance, List.length_drop]
    omega
  · omega

theorem prepare_eq
    {reader skipped : Reader}
    (idle : reader.skipIdle = skipped)
    (fresh : skipped.keys.filter (fun key => !skipped.isStale key.2) = skipped.keys) :
    reader.prepare = .ok (skipped.unwindIndent skipped.cursor.column) := by
  have noneStale : (skipped.keys.any fun key => skipped.isStale key.2 && key.2.required) =
      false := by
    rw [List.any_eq_false]
    intro key member
    have kept := List.filter_eq_self.mp fresh key member
    simp only [Bool.not_eq_true'] at kept
    simp [kept]
  unfold prepare dropStaleKeys
  rw [idle, noneStale, if_neg (by simp), fresh]
  rfl

/-- What a reader takes is decided where the blanks in front of it end. -/
theorem readNext_eq
    {reader skipped : Reader}
    (idle : reader.skipIdle = skipped)
    (fresh : skipped.keys.filter (fun key => !skipped.isStale key.2) = skipped.keys)
    {character : Char}
    {rest : List Char}
    (next : skipped.cursor.rest = character :: rest) :
    reader.readNext =
      (skipped.unwindIndent skipped.cursor.column).readFrom character := by
  unfold readNext
  rw [prepare_eq idle fresh]
  simp only [bind, Except.bind]
  rw [Cursor.peek?, cursor_unwindIndent, next]
  rfl

/-- Where no text is left, the reader ends. -/
theorem readNext_eq_readEnd
    {reader skipped : Reader}
    (idle : reader.skipIdle = skipped)
    (fresh : skipped.keys.filter (fun key => !skipped.isStale key.2) = skipped.keys)
    (ended : skipped.cursor.rest = []) :
    reader.readNext = (skipped.unwindIndent skipped.cursor.column).readEnd := by
  unfold readNext
  rw [prepare_eq idle fresh]
  simp only [bind, Except.bind]
  rw [Cursor.peek?, cursor_unwindIndent, ended]
  rfl

end Delimit.Yaml.Reader
