import Delimit.Proofs.PlainValues
import Delimit.Proofs.TranscriptNodes
import Delimit.Proofs.WrittenNumbers

/-!
# Values of transcripts

The value of a transcript's node holds its texts as they are read back, and its numbers
if they are not too long.  The schema takes such a value for the transcript that it
describes.
-/

namespace Delimit

open Yaml

/-- Lines are counted from 1. -/
def UnitRecord.IsValid
    (unit : UnitRecord) :
    Prop :=
  1 ≤ unit.firstLine ∧ 1 ≤ unit.lastLine

namespace Transcript

def IsValid
    (transcript : Transcript) :
    Prop :=
  ∀ unit ∈ transcript.units, unit.IsValid

/-! ## The schema -/

namespace Schema

theorem readAtLeast_int
    {least number : Nat}
    (enough : least ≤ number) :
    readAtLeast least (.int number) = .ok number := by
  have reached : (least : Int) ≤ (number : Int) := Int.ofNat_le.mpr enough
  change (if (least : Int) ≤ (number : Int) then _ else _) = _
  rw [if_pos reached]
  rfl

theorem readVerdict_label
    (verdict : Verdict) :
    readVerdict (.text verdict.label.toList) = .ok verdict := by
  rw [Value.text, readVerdict, Verdict.ofLabel?_label]

theorem readText_text
    (text : List Char) :
    readText (.text text) = .ok text := rfl

section

variable
    {α : Type}
    (field : Field)
    {entries : Entries}
    {name : List Char}
    {value : Value}
    (found : field.find? entries = some (name, value))
    {reader : Value → Reading α}
    {result : α}
    (reads : reader value = .ok result)

include found reads

theorem Field.read_of_find? :
    field.read entries reader = .ok result := by
  rw [Field.read, found]
  dsimp only
  rw [reads]
  rfl

theorem Field.readOr_of_find?
    (default : α) :
    field.readOr entries default reader = .ok result := by
  rw [Field.readOr, found]
  dsimp only
  rw [reads]
  rfl

end

theorem readUnit_ofUnit
    {unit : UnitRecord}
    (valid : unit.IsValid) :
    readUnit (ofUnit unit) = .ok unit := by
  rw [ofUnit, readUnit, readUnitEntries,
    indexField.read_of_find? rfl (readAtLeast_int (Nat.zero_le unit.index)),
    firstLineField.read_of_find? rfl (readAtLeast_int valid.1),
    lastLineField.read_of_find? rfl (readAtLeast_int valid.2),
    statusField.read_of_find? rfl (readVerdict_label unit.status),
    textField.read_of_find? rfl (readText_text unit.text)]
  rfl

theorem readItems_ofUnit
    {units : List UnitRecord}
    (valid : ∀ unit ∈ units, unit.IsValid)
    (index : Nat) :
    readItems index (units.map ofUnit) = .ok units := by
  induction units generalizing index with
  | nil => rfl
  | cons unit units induction =>
      obtain ⟨first, later⟩ := List.forall_mem_cons.mp valid
      rw [List.map_cons, readItems, readUnit_ofUnit first, induction later]
      rfl

/-- The value of a transcript is taken for the transcript. -/
theorem read_ofTranscript
    {transcript : Transcript}
    (valid : transcript.IsValid) :
    read (ofTranscript transcript) = .ok transcript := by
  have units : readUnits (.sequence (transcript.units.map ofUnit)) = .ok transcript.units :=
    readItems_ofUnit valid 0
  rw [ofTranscript, read, readEntries,
    sourceField.readOr_of_find? rfl (readText_text transcript.source),
    unitsField.readOr_of_find? rfl units]
  rfl

end Schema

/-! ## What is read back -/

end Transcript

/-- A unit with its text as it is read back. -/
def UnitRecord.readBack
    (unit : UnitRecord) :
    UnitRecord :=
  { unit with text := Written.readBack unit.text }

namespace Transcript

/-- A transcript with its texts as they are read back. -/
def readBack
    (transcript : Transcript) :
    Transcript where
  source := Written.readBack transcript.source
  units := transcript.units.map UnitRecord.readBack

/-- The texts of a transcript, apart from the labels of its verdicts. -/
def texts
    (transcript : Transcript) :
    List (List Char) :=
  transcript.source :: transcript.units.map UnitRecord.text

theorem isValid_readBack
    {transcript : Transcript}
    (valid : transcript.IsValid) :
    transcript.readBack.IsValid := by
  intro unit member
  obtain ⟨before, among, rfl⟩ := List.mem_map.mp member
  exact valid before among

theorem readBack_eq_self_iff
    (transcript : Transcript) :
    transcript.readBack = transcript ↔
      ∀ text ∈ transcript.texts, Written.readBack text = text := by
  obtain ⟨source, units⟩ := transcript
  have unit (unit : UnitRecord) :
      unit.readBack = unit ↔ Written.readBack unit.text = unit.text := by
    cases unit
    simp [UnitRecord.readBack]
  have same : units.map UnitRecord.readBack = units ↔
      ∀ unit ∈ units, Written.readBack unit.text = unit.text := by
    simp only [← unit]
    simpa using @List.map_inj_left _ _ units UnitRecord.readBack id
  simp [readBack, texts, same]

/-! ## The value of the node -/

/-- A text is read back as a text, whatever it is written like. -/
theorem tag_readBack
    (text : List Char) :
    Tag.ofScalar {} (Style.ofText text == .plain) (Written.readBack text) =
      .string := by
  rw [Tag.ofScalar]
  dsimp only
  split
  · next plain =>
      have style : Style.ofText text = .plain := by simpa using plain
      have allowed := Written.allowsPlain_of_ofText style
      have same : Written.readBack text = text := by
        rw [Written.readBack, style]
      rw [same]
      unfold Style.allowsPlain at allowed
      simp only [Bool.and_eq_true, beq_iff_eq] at allowed
      exact allowed.2
  · rfl

theorem meaning_readBack
    (text : List Char) :
    Meaning.ofScalar
        (Tag.ofScalar {} (Style.ofText text == .plain) (Written.readBack text))
        (Written.readBack text) =
      .ok (.text (Written.readBack text)) := by
  rw [tag_readBack]
  rfl

theorem meaning_toDigits
    {number : Nat}
    (short : (Scalar.int number).isTooLong = false) :
    Meaning.ofScalar (Tag.ofScalar {} true (Nat.toDigits 10 number)) (Nat.toDigits 10 number) =
      .ok (.int number) := by
  have tag : Tag.ofScalar {} true (Nat.toDigits 10 number) = .int := ofPlain_toDigits number
  rw [tag, Meaning.ofScalar, int_toDigits short]
  rfl

section

variable
    {unit : UnitRecord}
    (short : hasLongNumberIn unit = false)

include short

theorem isTooLong_unit :
    (Scalar.int unit.index).isTooLong = false ∧
      (Scalar.int unit.firstLine).isTooLong = false ∧
        (Scalar.int unit.lastLine).isTooLong = false := by
  unfold hasLongNumberIn at short
  simp only [List.any_cons, List.any_nil, Bool.or_eq_false_iff] at short
  exact ⟨short.1, short.2.1, short.2.2.1⟩

theorem isAddable_unitNode :
    Graph.IsAddable (unitNode unit) := by
  obtain ⟨index, firstLine, lastLine⟩ := isTooLong_unit short
  have keyed : unitNode unit = .mapping {} (Node.keyed
      [ ("index".toList, .scalar {} true (Nat.toDigits 10 unit.index)),
        ("first-line".toList, .scalar {} true (Nat.toDigits 10 unit.firstLine)),
        ("last-line".toList, .scalar {} true (Nat.toDigits 10 unit.lastLine)),
        ("status".toList, (textEntry "status" unit.status.label.toList).2),
        ("text".toList, (textEntry "text" unit.text).2) ]) := rfl
  rw [keyed]
  refine Graph.isAddable_mapping ?_
  simp only [List.forall_mem_cons]
  exact ⟨⟨by decide, Graph.isAddable_scalar (meaning_toDigits index)⟩,
    ⟨by decide, Graph.isAddable_scalar (meaning_toDigits firstLine)⟩,
    ⟨by decide, Graph.isAddable_scalar (meaning_toDigits lastLine)⟩,
    ⟨by decide, Graph.isAddable_scalar (meaning_readBack _)⟩,
    ⟨by decide, Graph.isAddable_scalar (meaning_readBack _)⟩, nofun⟩

end

theorem isAddable_node
    {transcript : Transcript}
    (short : transcript.hasLongNumber = false) :
    Graph.IsAddable transcript.node := by
  have units : ∀ item ∈ transcript.units.map unitNode, Graph.IsAddable item := by
    intro item member
    obtain ⟨unit, among, rfl⟩ := List.mem_map.mp member
    exact isAddable_unitNode (by simpa using List.any_eq_false.mp short unit among)
  have keyed : transcript.node = .mapping {} (Node.keyed
      [ ("source".toList, (textEntry "source" transcript.source).2),
        ("units".toList, .sequence {} (transcript.units.map unitNode)) ]) := rfl
  rw [keyed]
  refine Graph.isAddable_mapping ?_
  simp only [List.forall_mem_cons]
  exact ⟨⟨by decide, Graph.isAddable_scalar (meaning_readBack _)⟩,
    ⟨by decide, Graph.isAddable_sequence units⟩, nofun⟩

theorem plainValue_text
    (depth : Nat)
    (name : String)
    (text : List Char) :
    (textEntry name text).2.plainValue depth = .text (Written.readBack text) := by
  have value : (textEntry name text).2.plainValue depth =
      .scalar ((Meaning.ofScalar
        (Tag.ofScalar {} (Style.ofText text == .plain) (Written.readBack text))
        (Written.readBack text)).toOption.getD .null) := by
    cases depth <;> rfl
  rw [value, meaning_readBack]
  rfl

theorem plainValue_number
    (depth : Nat)
    (name : String)
    {number : Nat}
    (short : (Scalar.int number).isTooLong = false) :
    (numberEntry name number).2.plainValue depth = .int number := by
  have value : (numberEntry name number).2.plainValue depth =
      .scalar ((Meaning.ofScalar (Tag.ofScalar {} true (Nat.toDigits 10 number))
        (Nat.toDigits 10 number)).toOption.getD .null) := by
    cases depth <;> rfl
  rw [value, meaning_toDigits short]
  rfl

theorem readBack_label
    (verdict : Verdict) :
    Written.readBack verdict.label.toList = verdict.label.toList := by
  cases verdict <;> decide

theorem plainValue_unitNode
    (depth : Nat)
    {unit : UnitRecord}
    (short : hasLongNumberIn unit = false) :
    (unitNode unit).plainValue (depth + 1) = Schema.ofUnit unit.readBack := by
  obtain ⟨index, firstLine, lastLine⟩ := isTooLong_unit short
  have entries : (unitNode unit).plainValue (depth + 1) = .mapping (Entries.insertAll []
      [ (Schema.key Schema.indexField, (numberEntry "index" unit.index).2.plainValue depth),
        (Schema.key Schema.firstLineField,
          (numberEntry "first-line" unit.firstLine).2.plainValue depth),
        (Schema.key Schema.lastLineField,
          (numberEntry "last-line" unit.lastLine).2.plainValue depth),
        (Schema.key Schema.statusField,
          (textEntry "status" unit.status.label.toList).2.plainValue depth),
        (Schema.key Schema.textField, (textEntry "text" unit.text).2.plainValue depth) ]) := rfl
  rw [entries, plainValue_number depth _ index, plainValue_number depth _ firstLine,
    plainValue_number depth _ lastLine, plainValue_text, plainValue_text, readBack_label]
  rfl

/-- The value of a transcript's node is that of the transcript that is read back. -/
theorem plainValue_node
    {transcript : Transcript}
    (short : transcript.hasLongNumber = false) :
    transcript.node.plainValue Value.reach = Schema.ofTranscript transcript.readBack := by
  have entries : transcript.node.plainValue Value.reach = .mapping (Entries.insertAll []
      [ (Schema.key Schema.sourceField, (textEntry "source" transcript.source).2.plainValue 2),
        (Schema.key Schema.unitsField,
          .sequence ((transcript.units.map unitNode).map (Node.plainValue 1))) ]) := rfl
  have units : (transcript.units.map unitNode).map (Node.plainValue 1) =
      (transcript.units.map UnitRecord.readBack).map Schema.ofUnit := by
    rw [List.map_map, List.map_map]
    refine List.map_congr_left fun unit member => ?_
    exact plainValue_unitNode 0 (by simpa using List.any_eq_false.mp short unit member)
  rw [entries, units, plainValue_text]
  rfl

/-- The value of a transcript's node is taken for the transcript that is read back. -/
theorem ofNode_node
    {transcript : Transcript}
    (short : transcript.hasLongNumber = false) :
    Value.ofNode transcript.node = .ok (Schema.ofTranscript transcript.readBack) := by
  rw [Value.ofNode_eq_plainValue (isAddable_node short), plainValue_node short]

end Transcript

end Delimit
