import Delimit.Proofs.ReaderSteps
import Delimit.Proofs.TokenFaults

/-!
# Faults among the tokens of a text

A reader emits a fault only where it stops.  So the tokens of a text hold a breakdown
only if the text holds an escape or a version that the reader breaks down at, and what
comes before the fault is what was read of the text.
-/

namespace Delimit.Yaml

/-- A token that is no fault. -/
def Token.IsSound : Token → Prop
  | .fault _ => False
  | _ => True

namespace Reader

/-- A reader that stands in a text and has given out no fault. -/
structure Behind
    (text : List Char)
    (reader : Reader) :
    Prop where
  rest : reader.cursor.rest <:+ text
  sound : ∀ token ∈ reader.tokens, token.IsSound

/-- A step of a reader that goes on in its text or stops, if need be at a hazard. -/
def GoesOn
    (text : List Char)
    (result : Except Fault Reader) :
    Prop :=
  Yields (Behind text) (TokenHazard text) result

namespace Behind

variable
    {text : List Char}
    {reader : Reader}

theorem emit
    (behind : Behind text reader)
    (token : Token)
    (sound : token.IsSound) :
    Behind text (reader.emit token) where
  rest := behind.rest
  sound := by
    intro other member
    rcases List.mem_cons.mp member with rfl | member
    · exact sound
    · exact behind.sound other member

theorem insertAt
    (behind : Behind text reader)
    (position : Nat)
    (tokens : List Token)
    (sound : ∀ token ∈ tokens, token.IsSound) :
    Behind text (reader.insertAt position tokens) where
  rest := behind.rest
  sound := by
    intro other member
    rcases List.mem_append.mp member with member | member
    · rcases List.mem_append.mp member with member | member
      · exact behind.sound other (List.mem_of_mem_take member)
      · exact sound other (List.mem_reverse.mp member)
    · exact behind.sound other (List.mem_of_mem_drop member)

/-- A reader whose cursor has moved on. -/
theorem setCursor
    (behind : Behind text reader)
    {cursor : Cursor}
    (further : cursor.rest <:+ reader.cursor.rest) :
    Behind text { reader with cursor } :=
  ⟨further.trans behind.rest, behind.sound⟩

theorem allowing
    (behind : Behind text reader)
    (allowsKey : Bool) :
    Behind text (reader.allowing allowsKey) :=
  ⟨behind.rest, behind.sound⟩

theorem forgetKey
    (behind : Behind text reader) :
    Behind text reader.forgetKey :=
  ⟨behind.rest, behind.sound⟩

theorem pushIndent
    (behind : Behind text reader)
    (column : Nat) :
    Behind text (reader.pushIndent column) :=
  ⟨behind.rest, behind.sound⟩

theorem take
    (behind : Behind text reader)
    (token : Token)
    (sound : token.IsSound)
    (length : Nat) :
    Behind text (reader.take token length) :=
  (behind.emit token sound).setCursor (Cursor.advance_suffix _ _)

theorem skipIdle
    (behind : Behind text reader) :
    Behind text reader.skipIdle := by
  refine ⟨?_, behind.sound⟩
  have marked : (if reader.cursor.index == 0 && reader.cursor.peek? == some '\uFEFF' then
      reader.cursor.advance 1 else reader.cursor).rest <:+ text := by
    split
    · exact (Cursor.advance_suffix _ 1).trans behind.rest
    · exact behind.rest
  exact (Cursor.advance_suffix _ _).trans marked

theorem unwindFrom
    (behind : Behind text reader)
    (column : Int)
    (outers : List Int) :
    Behind text (Reader.unwindFrom column outers reader) := by
  induction outers generalizing reader with
  | nil => exact behind
  | cons outer outers induction =>
      unfold Reader.unwindFrom
      split
      · have closed : Behind text (reader.emit .blockEnd) := behind.emit _ trivial
        exact induction ⟨closed.rest, closed.sound⟩
      · exact behind

theorem unwindIndent
    (behind : Behind text reader)
    (column : Int) :
    Behind text (reader.unwindIndent column) := by
  unfold Reader.unwindIndent
  split
  · exact behind
  · exact behind.unwindFrom column _

theorem openHere
    (behind : Behind text reader)
    (start : Token)
    (sound : start.IsSound) :
    Behind text (reader.openHere start) := by
  unfold Reader.openHere
  split
  · exact (behind.pushIndent _).emit start sound
  · exact behind

/-- Giving up a key moves nothing, so what is read next is read at the same place. -/
theorem removeKey
    (behind : Behind text reader) :
    Yields (fun removed => Behind text removed ∧ removed.cursor = reader.cursor)
      (TokenHazard text) reader.removeKey := by
  unfold Reader.removeKey
  split
  · exact yields_error rfl
  · exact yields_ok ⟨behind.forgetKey, rfl⟩

theorem saveKey
    (behind : Behind text reader) :
    GoesOn text reader.saveKey := by
  unfold Reader.saveKey
  split
  · exact behind.removeKey.bind fun _ ⟨behind, _⟩ => ⟨behind.rest, behind.sound⟩
  · exact yields_ok behind

theorem dropStaleKeys
    (behind : Behind text reader) :
    GoesOn text reader.dropStaleKeys := by
  unfold Reader.dropStaleKeys
  split
  · exact yields_error rfl
  · exact yields_ok ⟨behind.rest, behind.sound⟩

theorem prepare
    (behind : Behind text reader) :
    GoesOn text reader.prepare :=
  behind.skipIdle.dropStaleKeys.bind fun _ behind => behind.unwindIndent _

/-! ## Tokens one by one -/

/-- What a reading breaks down at in front of a reader stands in the text. -/
theorem bind_movesOn
    {α : Type}
    (behind : Behind text reader)
    {reading : Except Fault (α × Cursor)}
    (moves : MovesOn reader.cursor reading)
    {next : α × Cursor → Except Fault Reader}
    (further : ∀ read : α × Cursor,
      read.2.rest <:+ reader.cursor.rest → GoesOn text (next read)) :
    GoesOn text (reading >>= next) :=
  Yields.bind (moves.mono (fun _ holds => holds) fun _ hazard => hazard.of_suffix behind.rest)
    further

/-- A token at the cursor that may be a key, and that is read from there. -/
theorem readKeyed
    {α : Type}
    (behind : Behind text reader)
    {reading : Cursor → Except Fault (α × Cursor)}
    (moves : ∀ cursor, MovesOn cursor (reading cursor))
    {token : α → Token}
    (sound : ∀ value, (token value).IsSound) :
    GoesOn text (do
      let reader ← reader.saveKey
      let (value, cursor) ← reading reader.cursor
      return { (reader.allowing false).emit (token value) with cursor }) := by
  refine behind.saveKey.bind fun saved behind => ?_
  refine behind.bind_movesOn (moves _) fun read further => ?_
  exact ((behind.allowing false).emit _ (sound read.1)).setCursor further

theorem readEnd
    (behind : Behind text reader) :
    GoesOn text reader.readEnd :=
  (behind.unwindIndent (-1)).removeKey.bind fun _ ⟨behind, _⟩ =>
    (behind.allowing false).emit .textEnd trivial

theorem readDirective
    (behind : Behind text reader)
    {rest : List Char}
    (mark : reader.cursor.rest = '%' :: rest) :
    GoesOn text reader.readDirective := by
  refine (behind.unwindIndent (-1)).removeKey.bind fun removed ⟨behind, same⟩ => ?_
  rw [cursor_unwindIndent] at same
  have moves := Property.movesOn_directive mark
  rw [← same] at moves
  refine behind.bind_movesOn moves fun read further => ?_
  exact ((behind.allowing false).emit (.directive read.1) trivial).setCursor further

theorem readDocumentMark
    (behind : Behind text reader)
    (token : Token)
    (sound : token.IsSound) :
    GoesOn text (reader.readDocumentMark token) :=
  (behind.unwindIndent (-1)).removeKey.bind fun _ ⟨behind, _⟩ =>
    (behind.allowing false).take token sound 3

theorem readFlowStart
    (behind : Behind text reader)
    (token : Token)
    (sound : token.IsSound) :
    GoesOn text (reader.readFlowStart token) :=
  behind.saveKey.bind fun saved behind =>
    let inner : Behind text { saved with flowLevel := saved.flowLevel + 1 } :=
      ⟨behind.rest, behind.sound⟩
    (inner.allowing true).take token sound 1

theorem readFlowEnd
    (behind : Behind text reader)
    (token : Token)
    (sound : token.IsSound) :
    GoesOn text (reader.readFlowEnd token) := by
  refine behind.removeKey.bind fun removed ⟨behind, _⟩ => ?_
  dsimp only
  split
  · exact yields_throw rfl
  · have outer : Behind text { removed with flowLevel := removed.flowLevel - 1 } :=
      ⟨behind.rest, behind.sound⟩
    exact (outer.allowing false).take token sound 1

theorem readFlowEntry
    (behind : Behind text reader) :
    GoesOn text reader.readFlowEntry :=
  (behind.allowing true).removeKey.bind fun _ ⟨behind, _⟩ => behind.take .flowEntry trivial 1

theorem bind_requireKeyAllowed
    {next : Unit → Except Fault Reader}
    (goesOn : GoesOn text (next ())) :
    GoesOn text (reader.requireKeyAllowed >>= next) := by
  unfold requireKeyAllowed
  split
  · exact goesOn
  · exact @yields_error _ _ _ .badToken rfl

theorem readBlockEntry
    (behind : Behind text reader) :
    GoesOn text reader.readBlockEntry :=
  bind_requireKeyAllowed <|
    ((behind.openHere .blockSequenceStart trivial).allowing true).removeKey.bind
      fun _ ⟨behind, _⟩ => behind.take .blockEntry trivial 1

theorem readKey
    (behind : Behind text reader) :
    GoesOn text reader.readKey :=
  bind_requireKeyAllowed <|
    ((behind.openHere .blockMappingStart trivial).allowing _).removeKey.bind
      fun _ ⟨behind, _⟩ => behind.take .key trivial 1

theorem readValue
    (behind : Behind text reader) :
    GoesOn text reader.readValue := by
  unfold Reader.readValue
  split
  · rename_i place _
    have forgotten := behind.forgetKey
    dsimp only
    split
    · have marked := (forgotten.pushIndent place.cursor.column).insertAt place.position
        [.blockMappingStart, .key] (by simp [Token.IsSound])
      exact yields_ok ((marked.allowing false).take .value trivial 1)
    · have marked := forgotten.insertAt place.position [.key]
        (by simp [Token.IsSound])
      exact yields_ok ((marked.allowing false).take .value trivial 1)
  · exact bind_requireKeyAllowed <|
      ((behind.openHere .blockMappingStart trivial).allowing _).removeKey.bind
        fun _ ⟨behind, _⟩ => behind.take .value trivial 1

theorem readName
    (behind : Behind text reader)
    (token : List Char → Token)
    (sound : ∀ name, (token name).IsSound) :
    GoesOn text (reader.readName token) :=
  behind.readKeyed Property.movesOn_name sound

theorem readTag
    (behind : Behind text reader) :
    GoesOn text reader.readTag :=
  behind.readKeyed Property.movesOn_tag fun _ => trivial

theorem readQuotedScalar
    (behind : Behind text reader)
    (style : Flow.Style) :
    GoesOn text (reader.readQuotedScalar style) :=
  behind.readKeyed (Flow.movesOn_read style) fun _ => trivial

theorem readBlockScalar
    (behind : Behind text reader)
    (folded : Bool) :
    GoesOn text (reader.readBlockScalar folded) := by
  refine (behind.allowing true).removeKey.bind fun _ ⟨behind, _⟩ => ?_
  refine behind.bind_movesOn (Block.movesOn_read folded _ _) fun read further => ?_
  exact (behind.emit (.scalar false read.1) trivial).setCursor further

theorem readPlainScalar
    (behind : Behind text reader) :
    GoesOn text reader.readPlainScalar := by
  refine behind.saveKey.bind fun saved behind => ?_
  have allowing := behind.allowing
    (Plain.read saved.inFlow (saved.indent + 1) saved.cursor).broken
  exact (allowing.emit (.scalar true _) trivial).setCursor (Plain.read_suffix _ _ _)

/-- Whatever a token begins with, it is read from the text or stops at a hazard in it. -/
theorem readFrom
    (behind : Behind text reader)
    {character : Char}
    (next : reader.cursor.peek? = some character) :
    GoesOn text (reader.readFrom character) := by
  unfold Reader.readFrom
  refine yields_ite (fun mark => ?_) ?_
  · rw [Bool.and_eq_true] at mark
    rcases List.head?_eq_some_iff.mp next with ⟨rest, begins⟩
    rw [eq_of_beq mark.1] at begins
    exact behind.readDirective begins
  refine yields_ite (fun _ => behind.readDocumentMark .documentStart trivial) ?_
  refine yields_ite (fun _ => behind.readDocumentMark .documentEnd trivial) ?_
  refine yields_ite (fun _ => behind.readFlowStart .flowSequenceStart trivial) ?_
  refine yields_ite (fun _ => behind.readFlowStart .flowMappingStart trivial) ?_
  refine yields_ite (fun _ => behind.readFlowEnd .flowSequenceEnd trivial) ?_
  refine yields_ite (fun _ => behind.readFlowEnd .flowMappingEnd trivial) ?_
  refine yields_ite (fun _ => behind.readFlowEntry) ?_
  refine yields_ite (fun _ => behind.readBlockEntry) ?_
  refine yields_ite (fun _ => behind.readKey) ?_
  refine yields_ite (fun _ => behind.readValue) ?_
  refine yields_ite (fun _ => behind.readName .alias fun _ => trivial) ?_
  refine yields_ite (fun _ => behind.readName .anchor fun _ => trivial) ?_
  refine yields_ite (fun _ => behind.readTag) ?_
  refine yields_ite (fun _ => behind.readBlockScalar false) ?_
  refine yields_ite (fun _ => behind.readBlockScalar true) ?_
  refine yields_ite (fun _ => behind.readQuotedScalar .single) ?_
  refine yields_ite (fun _ => behind.readQuotedScalar .double) ?_
  exact yields_ite (fun _ => behind.readPlainScalar) (yields_error rfl)

theorem readNext
    (behind : Behind text reader) :
    GoesOn text reader.readNext := by
  refine behind.prepare.bind fun prepared behind => ?_
  split
  · exact behind.readEnd
  · rename_i character next
    exact behind.readFrom next

end Behind

/-- The tokens up to the end of a text are no faults, and a fault that ends them has a hazard. -/
theorem readAll_hazard
    {text : List Char}
    (fuel : Nat)
    {reader : Reader}
    (behind : Behind text reader)
    {cause : Breakdown}
    (member : Token.fault (.breakdown cause) ∈ readAll fuel reader) :
    TokenHazard text cause := by
  have given {reader : Reader} (behind : Behind text reader) :
      Token.fault (.breakdown cause) ∉ reader.tokens :=
    fun member => behind.sound _ member
  have stopped {reader : Reader} (behind : Behind text reader) {fault : Fault}
      (member : Token.fault (.breakdown cause) ∈ reader.stopped fault) :
      fault = .breakdown cause := by
    rcases List.mem_append.mp member with early | last
    · exact (given behind (List.mem_reverse.mp (List.mem_of_mem_take early))).elim
    · cases List.mem_singleton.mp last
      rfl
  induction fuel generalizing reader with
  | zero => cases stopped behind member
  | succ fuel induction =>
      have goesOn := behind.readNext
      unfold readAll at member
      split at member
      · rename_i fault failed
        rw [failed] at goesOn
        exact goesOn cause (stopped behind member)
      · rename_i next read
        rw [read] at goesOn
        split at member
        · exact (given goesOn (List.mem_reverse.mp member)).elim
        · exact induction goesOn member

end Reader

/-- A breakdown among the tokens of a text comes from a hazard in it. -/
theorem tokensOf_hazard
    {text : List Char}
    {cause : Breakdown}
    (member : Token.fault (.breakdown cause) ∈ tokensOf text) :
    TokenHazard text cause := by
  refine Reader.readAll_hazard _ ⟨List.suffix_refl text, ?_⟩ member
  intro token member
  cases member

end Delimit.Yaml
