import Delimit.Proofs.TranscriptValues
import Mathlib.Data.List.Forall2

/-!
# Normal forms of transcripts

The same transcript can be described by many values: fields go by two names, may be left
out, and take numbers and texts of several sorts.  Its own value is the normal form of
them all.  A value is accepted exactly if every field is, every key is the name that a
field is given by, and every element of the units is; the first two hold for units as
well.  The normal form of an accepted value is accepted for the same transcript and is
its own normal form, and its units are those of the elements one by one.
-/

namespace Delimit.Transcript.Schema

open Yaml (Value Scalar Entries)

/-! ## Fields -/

section

variable
    {α : Type}
    {field : Field}
    {entries : Entries}
    {reader : Value → Reading α}
    {result : α}

theorem under_eq_ok_iff
    {step : Step}
    {reading : Reading α} :
    under step reading = .ok result ↔ reading = .ok result := by
  cases reading with
  | error faults => simp [under, Except.mapError]
  | ok value => simp [under, Except.mapError]

/-- A field that has to be there is read as its value. -/
theorem Field.read_eq_ok_iff :
    field.read entries reader = .ok result ↔
      ∃ name value, field.find? entries = some (name, value) ∧
        reader value = .ok result := by
  unfold Field.read
  split
  · rename_i name value found
    rw [under_eq_ok_iff]
    constructor
    · exact fun reads => ⟨name, value, found, reads⟩
    · rintro ⟨_, _, same, reads⟩
      cases found.symm.trans same
      exact reads
  · rename_i missing
    simp [missing, under, refuse, Except.mapError]

/-- A field that may be left out is read as its value, or is the default. -/
theorem Field.readOr_eq_ok_iff
    {default : α} :
    field.readOr entries default reader = .ok result ↔
      (∃ name value, field.find? entries = some (name, value) ∧
          reader value = .ok result) ∨
        field.find? entries = none ∧ result = default := by
  unfold Field.readOr
  split
  · rename_i name value found
    rw [under_eq_ok_iff]
    constructor
    · exact fun reads => .inl ⟨name, value, found, reads⟩
    · rintro (⟨_, _, same, reads⟩ | ⟨missing, -⟩)
      · cases found.symm.trans same
        exact reads
      · cases found.symm.trans missing
  · rename_i missing
    simp [missing, eq_comm]

/-- Every key is the name that one of some fields is given by. -/
def Accounted
    (fields : List Field)
    (entries : Entries) :
    Prop :=
  ∀ entry ∈ entries, ∃ field ∈ fields, ∃ name value,
    field.find? entries = some (name, value) ∧ entry.1 = .text name

theorem keyFaults_eq_nil_iff
    (fields : List Field)
    (entries : Entries) :
    keyFaults fields entries = [] ↔ Accounted fields entries := by
  rw [keyFaults, List.filterMap_eq_nil_iff, Accounted]
  refine forall₂_congr fun entry _ => ?_
  obtain ⟨key, value⟩ := entry
  cases key with
  | text name =>
      simp only [ite_eq_left_iff, List.contains_iff_mem, List.mem_filterMap,
        Option.map_eq_some_iff, Prod.exists, reduceCtorEq, imp_false, Classical.not_not,
        Scalar.text.injEq]
      constructor
      · rintro ⟨field, among, given, value, found, rfl⟩
        exact ⟨field, among, given, value, found, rfl⟩
      · rintro ⟨field, among, given, value, found, rfl⟩
        exact ⟨field, among, name, value, found, rfl⟩
  | _ => simp

end

/-! ## Units -/

/-- A unit is read exactly if all its fields are and every key belongs to one of them. -/
theorem readUnitEntries_eq_ok_iff
    {entries : Entries}
    {unit : UnitRecord} :
    readUnitEntries entries = .ok unit ↔
      indexField.read entries (readAtLeast 0) = .ok unit.index ∧
        firstLineField.read entries (readAtLeast 1) = .ok unit.firstLine ∧
          lastLineField.read entries (readAtLeast 1) = .ok unit.lastLine ∧
            statusField.read entries readVerdict = .ok unit.status ∧
              textField.read entries readText = .ok unit.text ∧
                Accounted unitFields entries := by
  obtain ⟨givenIndex, givenFirst, givenLast, givenStatus, givenText⟩ := unit
  rw [← keyFaults_eq_nil_iff, readUnitEntries]
  split
  · rename_i index firstLine lastLine status text unknown
    simp [index, firstLine, lastLine, status, text, unknown]
  · rename_i refused
    simp only [reduceCtorEq, false_iff, not_and]
    exact refused _ _ _ _ _

theorem readUnit_eq_ok_iff
    {value : Value}
    {unit : UnitRecord} :
    readUnit value = .ok unit ↔
      ∃ entries, value = .mapping entries ∧ readUnitEntries entries = .ok unit := by
  cases value with
  | mapping entries => simp [readUnit]
  | _ => simp [readUnit, refuse]

theorem le_of_readAtLeast
    {least number : Nat}
    {value : Value}
    (reads : readAtLeast least value = .ok number) :
    least ≤ number := by
  unfold readAtLeast at reads
  split at reads
  · cases reads
  · split at reads
    · rename_i enough
      cases reads
      omega
    · cases reads

/-- Lines are counted from 1 in every unit that is read. -/
theorem isValid_of_readUnit
    {value : Value}
    {unit : UnitRecord}
    (reads : readUnit value = .ok unit) :
    unit.IsValid := by
  obtain ⟨entries, rfl, reads⟩ := readUnit_eq_ok_iff.mp reads
  obtain ⟨-, firstLine, lastLine, -⟩ := readUnitEntries_eq_ok_iff.mp reads
  obtain ⟨_, _, -, firstLine⟩ := Field.read_eq_ok_iff.mp firstLine
  obtain ⟨_, _, -, lastLine⟩ := Field.read_eq_ok_iff.mp lastLine
  exact ⟨le_of_readAtLeast firstLine, le_of_readAtLeast lastLine⟩

/-! ## Lists of units -/

/-- A list is read element by element. -/
theorem readItems_eq_ok_iff
    {index : Nat}
    {items : List Value}
    {units : List UnitRecord} :
    readItems index items = .ok units ↔
      List.Forall₂ (fun item unit => readUnit item = .ok unit) items units := by
  induction items generalizing index units with
  | nil => simp [readItems, eq_comm]
  | cons item items induction =>
      rw [readItems]
      split
      · rename_i unit rest reads later
        rw [under_eq_ok_iff] at reads
        cases units with
        | nil => simp
        | cons first others =>
            have others := @induction (index + 1) others
            rw [later] at others
            rw [List.forall₂_cons, ← others, reads]
            simp
      · rename_i refused
        simp only [reduceCtorEq, false_iff]
        intro each
        cases each with
        | cons reads later =>
            exact refused _ _ (under_eq_ok_iff.mpr reads) (induction.mpr later)

theorem faultsOf_under
    {α : Type}
    (step : Step)
    (reading : Reading α) :
    faultsOf (under step reading) = (faultsOf reading).map (Fault.under step) := by
  cases reading <;> rfl

/-- The faults of a list are those of its elements, in order, each under its index. -/
theorem faultsOf_readItems
    (index : Nat)
    (items : List Value) :
    faultsOf (readItems index items) =
      (items.zipIdx index).flatMap fun item =>
        (faultsOf (readUnit item.1)).map (Fault.under (.index item.2)) := by
  induction items generalizing index with
  | nil => rfl
  | cons item items induction =>
      rw [List.zipIdx_cons, List.flatMap_cons, ← induction, ← faultsOf_under, readItems]
      split
      · rename_i reads later
        rw [reads, later]
        rfl
      · rfl

/-- The elements of what is taken for a list. -/
def items? : Value → Option (List Value)
  | .sequence items => some items
  | .set elements => some (elements.map Value.scalar)
  | _ => none

theorem readUnits_eq
    (value : Value) :
    readUnits value = (items? value).elim (refuse .notList) (readItems 0) := by
  cases value <;> rfl

theorem readUnits_eq_ok_iff
    {value : Value}
    {units : List UnitRecord} :
    readUnits value = .ok units ↔
      ∃ items, items? value = some items ∧
        List.Forall₂ (fun item unit => readUnit item = .ok unit) items units := by
  rw [readUnits_eq]
  cases items? value with
  | none => simp [refuse]
  | some items => simp [readItems_eq_ok_iff]

/-! ## Transcripts -/

/-- A transcript is read exactly if its fields are and every key belongs to one of them. -/
theorem readEntries_eq_ok_iff
    {entries : Entries}
    {transcript : Transcript} :
    readEntries entries = .ok transcript ↔
      sourceField.readOr entries "<stdin>".toList readText = .ok transcript.source ∧
        unitsField.readOr entries [] readUnits = .ok transcript.units ∧
          Accounted transcriptFields entries := by
  obtain ⟨givenSource, givenUnits⟩ := transcript
  rw [← keyFaults_eq_nil_iff, readEntries]
  split
  · rename_i source units unknown
    rw [source, units, unknown]
    simp
  · rename_i refused
    simp only [reduceCtorEq, false_iff, not_and]
    exact refused _ _

/-- The faults of a mapping are those of its fields and of its keys. -/
theorem faultsOf_readEntries
    (entries : Entries) :
    faultsOf (readEntries entries) =
      faultsOf (sourceField.readOr entries "<stdin>".toList readText) ++
        faultsOf (unitsField.readOr entries [] readUnits) ++
          keyFaults transcriptFields entries := by
  rw [readEntries]
  split
  · rename_i source units unknown
    rw [source, units, unknown]
    rfl
  · rfl

theorem read_eq_ok_iff
    {value : Value}
    {transcript : Transcript} :
    read value = .ok transcript ↔
      ∃ entries, value = .mapping entries ∧ readEntries entries = .ok transcript := by
  cases value with
  | mapping entries => simp [read]
  | _ => simp [read, refuse]

/-- The elements of the units that a value gives for a transcript. -/
def unitItems : Value → List Value
  | .mapping entries =>
      ((unitsField.find? entries).bind fun units => items? units.2).getD []
  | _ => []

/-- The units that are read are those of the elements one by one. -/
theorem forall₂_unitItems
    {value : Value}
    {transcript : Transcript}
    (reads : read value = .ok transcript) :
    List.Forall₂ (fun item unit => readUnit item = .ok unit)
      (unitItems value) transcript.units := by
  obtain ⟨entries, rfl, reads⟩ := read_eq_ok_iff.mp reads
  obtain ⟨-, units, -⟩ := readEntries_eq_ok_iff.mp reads
  rw [unitItems]
  rcases Field.readOr_eq_ok_iff.mp units with ⟨name, value, found, units⟩ | ⟨missing, none⟩
  · obtain ⟨items, given, each⟩ := readUnits_eq_ok_iff.mp units
    rw [found, Option.bind_some, given]
    exact each
  · rw [missing, none]
    exact .nil

theorem isValid_of_read
    {value : Value}
    {transcript : Transcript}
    (reads : read value = .ok transcript) :
    transcript.IsValid := by
  intro unit member
  obtain ⟨index, inside, rfl⟩ := List.mem_iff_getElem.mp member
  have each := forall₂_unitItems reads
  exact isValid_of_readUnit
    (each.get (by rw [each.length_eq]; exact inside) inside)

/-! ## Normal forms -/

/-- What reading a value and writing the transcript down again gives. -/
def normalize
    (value : Value) :
    Reading Value :=
  (read value).map ofTranscript

/-- A unit with its five keys, numbers in range and one of three words. -/
def IsNormalUnit
    (value : Value) :
    Prop :=
  ∃ (index firstLine lastLine : Int) (status text : List Char),
    value = .mapping
        [ (.text "index".toList, .int index),
          (.text "first-line".toList, .int firstLine),
          (.text "last-line".toList, .int lastLine),
          (.text "status".toList, .text status),
          (.text "text".toList, .text text) ] ∧
      0 ≤ index ∧ 1 ≤ firstLine ∧ 1 ≤ lastLine ∧
        status ∈ ["complete".toList, "incomplete".toList, "mismatch".toList]

/-- A transcript with its two keys and normal units. -/
def IsNormal
    (value : Value) :
    Prop :=
  ∃ (source : List Char) (units : List Value),
    value = .mapping
        [ (.text "source".toList, .text source),
          (.text "units".toList, .sequence units) ] ∧
      ∀ unit ∈ units, IsNormalUnit unit

theorem isNormalUnit_iff
    {value : Value} :
    IsNormalUnit value ↔ ∃ unit : UnitRecord, unit.IsValid ∧ ofUnit unit = value := by
  constructor
  · rintro ⟨index, firstLine, lastLine, status, text, rfl, least, first, last, word⟩
    obtain ⟨verdict, rfl⟩ : ∃ verdict : Verdict, verdict.label.toList = status := by
      simp only [List.mem_cons, List.not_mem_nil, or_false] at word
      obtain rfl | rfl | rfl := word
      · exact ⟨.complete, rfl⟩
      · exact ⟨.incomplete, rfl⟩
      · exact ⟨.mismatch, rfl⟩
    lift index to Nat using least
    lift firstLine to Nat using by omega
    lift lastLine to Nat using by omega
    exact ⟨⟨index, firstLine, lastLine, verdict, text⟩,
      ⟨Int.ofNat_le.mp first, Int.ofNat_le.mp last⟩, rfl⟩
  · rintro ⟨unit, ⟨first, last⟩, rfl⟩
    refine ⟨unit.index, unit.firstLine, unit.lastLine, unit.status.label.toList, unit.text,
      rfl, Int.natCast_nonneg _, Int.ofNat_le.mpr first, Int.ofNat_le.mpr last, ?_⟩
    cases unit.status <;> decide

theorem exists_map_ofUnit
    {units : List Value}
    (normal : ∀ unit ∈ units, IsNormalUnit unit) :
    ∃ records : List UnitRecord,
      (∀ record ∈ records, record.IsValid) ∧ records.map ofUnit = units := by
  induction units with
  | nil => exact ⟨[], List.forall_mem_nil _, rfl⟩
  | cons unit units induction =>
      obtain ⟨first, later⟩ := List.forall_mem_cons.mp normal
      obtain ⟨record, valid, rfl⟩ := isNormalUnit_iff.mp first
      obtain ⟨records, others, rfl⟩ := induction later
      exact ⟨record :: records, List.forall_mem_cons.mpr ⟨valid, others⟩, rfl⟩

/-- Normal forms are the values of transcripts. -/
theorem isNormal_iff_ofTranscript
    {value : Value} :
    IsNormal value ↔
      ∃ transcript : Transcript, transcript.IsValid ∧ ofTranscript transcript = value := by
  constructor
  · rintro ⟨source, units, rfl, normal⟩
    obtain ⟨records, valid, rfl⟩ := exists_map_ofUnit normal
    exact ⟨⟨source, records⟩, valid, rfl⟩
  · rintro ⟨transcript, valid, rfl⟩
    refine ⟨transcript.source, transcript.units.map ofUnit, rfl, ?_⟩
    intro unit member
    obtain ⟨record, among, rfl⟩ := List.mem_map.mp member
    exact isNormalUnit_iff.mpr ⟨record, valid record among, rfl⟩

theorem normalize_eq_ok_iff
    {value normal : Value} :
    normalize value = .ok normal ↔
      ∃ transcript, read value = .ok transcript ∧ ofTranscript transcript = normal := by
  rw [normalize]
  cases read value <;> simp [Except.map]

/-- A normal form of any value is its own normal form. -/
theorem normalize_ofTranscript
    {transcript : Transcript}
    (valid : transcript.IsValid) :
    normalize (ofTranscript transcript) = .ok (ofTranscript transcript) :=
  normalize_eq_ok_iff.mpr ⟨transcript, read_ofTranscript valid, rfl⟩

/-- The values that normalizing leaves alone are the normal forms. -/
theorem normalize_eq_self_iff
    {value : Value} :
    normalize value = .ok value ↔ IsNormal value := by
  rw [isNormal_iff_ofTranscript]
  constructor
  · intro same
    obtain ⟨transcript, reads, written⟩ := normalize_eq_ok_iff.mp same
    exact ⟨transcript, isValid_of_read reads, written⟩
  · rintro ⟨transcript, valid, rfl⟩
    exact normalize_ofTranscript valid

/-! ## Rejected elements -/

theorem mem_unitItems
    {entries : Entries}
    {item : Value}
    {index : Nat}
    (given : (unitItems (.mapping entries))[index]? = some item) :
    ∃ value items, unitsField.find? entries = some ("units".toList, value) ∧
      items? value = some items ∧ items[index]? = some item := by
  rw [unitItems] at given
  cases found : unitsField.find? entries with
  | none =>
      rw [found] at given
      cases given
  | some units =>
      obtain ⟨name, value⟩ := units
      rw [found, Option.bind_some] at given
      obtain rfl : name = "units".toList := by
        unfold Field.find? at found
        split at found
        · cases found
          rfl
        · obtain ⟨_, -, same⟩ := Option.map_eq_some_iff.mp found
          cases same
          rfl
      cases items : items? value with
      | none =>
          rw [items] at given
          cases given
      | some elements =>
          rw [items] at given
          exact ⟨value, elements, rfl, items, given⟩

section

variable
    {value item : Value}
    {index : Nat}
    {faults : List Fault}
    (given : (unitItems value)[index]? = some item)
    (rejected : readUnit item = .error faults)

include given rejected

/-- The faults of an element of the units are faults of the whole, further in. -/
theorem mem_faultsOf_read
    {fault : Fault}
    (member : fault ∈ faults) :
    (fault.under (.index index)).under (.key "units".toList) ∈ faultsOf (read value) := by
  cases value with
  | mapping entries =>
      obtain ⟨value, items, found, items_eq, inside⟩ := mem_unitItems given
      rw [read, faultsOf_readEntries, Field.readOr, Field.readOr, found]
      dsimp only
      rw [faultsOf_under _ (readUnits value), readUnits_eq, items_eq, Option.elim_some,
        faultsOf_readItems]
      refine List.mem_append_left _ (List.mem_append_right _ (List.mem_map_of_mem ?_))
      refine List.mem_flatMap.mpr ⟨(item, index), List.mem_zipIdx_iff_getElem?.mpr inside, ?_⟩
      rw [rejected]
      exact List.mem_map_of_mem member
  | _ => cases given

theorem exists_error_of_rejected :
    ∃ whole, read value = .error whole := by
  -- An accepted value would have accepted the element as well.
  cases reading : read value with
  | error whole => exact ⟨whole, rfl⟩
  | ok transcript =>
      have each := forall₂_unitItems reading
      obtain ⟨inside, rfl⟩ := List.getElem?_eq_some_iff.mp given
      have accepted := each.get inside (each.length_eq ▸ inside)
      cases rejected.symm.trans accepted

end

/--
Reading a value and writing the transcript down again gives a normal form: it is read as
the same transcript and written as the same value, it has exactly the keys of a
transcript and of its units with values in range, and its units are what the elements of
the given units are read as, one by one.  Only normal forms are left as they are.  If an
element is rejected, the whole value is, with the faults of the element under its index.
-/
theorem normalize_normal_form
    (value : Value) :
    (∀ transcript, read value = .ok transcript →
      read (ofTranscript transcript) = .ok transcript ∧
        normalize (ofTranscript transcript) = .ok (ofTranscript transcript) ∧
          IsNormal (ofTranscript transcript) ∧
            List.Forall₂ (fun item unit => ∃ record, readUnit item = .ok record ∧
                ofUnit record = unit)
              (unitItems value) (unitItems (ofTranscript transcript))) ∧
      (normalize value = .ok value ↔ IsNormal value) ∧
      ∀ (index : Nat) (item : Value) (faults : List Fault),
        (unitItems value)[index]? = some item →
          readUnit item = .error faults →
            ∃ whole, read value = .error whole ∧ ∀ fault ∈ faults,
              (fault.under (.index index)).under (.key "units".toList) ∈ whole := by
  refine ⟨?_, normalize_eq_self_iff, ?_⟩
  · intro transcript reads
    have valid := isValid_of_read reads
    have normal := normalize_ofTranscript valid
    refine ⟨read_ofTranscript valid, normal, normalize_eq_self_iff.mp normal, ?_⟩
    have units : unitItems (ofTranscript transcript) = transcript.units.map ofUnit := rfl
    rw [units, List.forall₂_map_right_iff]
    exact (forall₂_unitItems reads).imp fun item record reads => ⟨record, reads, rfl⟩
  · intro index item faults given rejected
    obtain ⟨whole, reads⟩ := exists_error_of_rejected given rejected
    refine ⟨whole, reads, fun fault member => ?_⟩
    have among := mem_faultsOf_read given rejected member
    rwa [reads] at among

/-- A unit in bytes, truth values and texts, with the names for programs. -/
def lenientUnit : Value :=
  .mapping
    [ (.text "text".toList, .scalar (.bytes [0x78])),
      (.text "first_line".toList, .scalar (.bool true)),
      (.text "last-line".toList, .text "+02.0".toList),
      (.text "status".toList, .text "mismatch".toList),
      (.text "index".toList, .int 7) ]

/-- The lenient unit has a normal form; with nothing behind it the whole is rejected. -/
theorem normalize_normal_form_lenientUnit :
    normalize (.mapping [(.text "units".toList, .sequence [lenientUnit])]) =
        .ok (ofTranscript ⟨"<stdin>".toList, [⟨7, 1, 2, .mismatch, ['x']⟩]⟩) ∧
      normalize (ofTranscript ⟨"<stdin>".toList, [⟨7, 1, 2, .mismatch, ['x']⟩]⟩) =
        .ok (ofTranscript ⟨"<stdin>".toList, [⟨7, 1, 2, .mismatch, ['x']⟩]⟩) ∧
        ∃ whole,
          read (.mapping [(.text "units".toList, .sequence [lenientUnit, .null])]) =
              .error whole ∧
            ⟨[.key "units".toList, .index 1], .notMapping⟩ ∈ whole := by
  have reads : read (.mapping [(.text "units".toList, .sequence [lenientUnit])]) =
      .ok ⟨"<stdin>".toList, [⟨7, 1, 2, .mismatch, ['x']⟩]⟩ := by decide
  obtain ⟨whole, rejected, faults⟩ :=
    (normalize_normal_form (.mapping
      [(.text "units".toList, .sequence [lenientUnit, .null])])).2.2 1 .null _ rfl rfl
  exact ⟨normalize_eq_ok_iff.mpr ⟨_, reads, rfl⟩,
    ((normalize_normal_form _).1 _ reads).2.1,
    whole, rejected, faults ⟨[], .notMapping⟩ (List.mem_singleton_self _)⟩

end Delimit.Transcript.Schema
