import Delimit.Text.Utf8
import Delimit.Transcript
import Delimit.Transcript.Integer
import Delimit.Yaml.Value

/-!
# Transcripts as values

A transcript is stored as a mapping with a source and a list of units.  Some
fields of a unit have two names, one for files and one for programs; the name for
files goes first, and is the only one that is written.  Values are read leniently:
numbers as a record takes them, bytes as texts, sets as lists.

All faults of a value are reported together, each with the place it occurs at.  A
fault in a field is placed under the name that the field was given by.
-/

namespace Delimit.Transcript.Schema

open Delimit.Yaml (Value Scalar Entries)

/-- A step on the way to a place inside a value. -/
inductive Step where
  /-- Under a key that is a text. -/
  | key (name : List Char)
  /-- At an index, or under a key that is a number. -/
  | index (value : Int)
  deriving DecidableEq, Repr

inductive FaultKind where
  | missing
  | extra
  | invalidKey
  | notMapping
  | notList
  | notText
  /-- Bytes were expected to be a text. -/
  | undecodable
  | integer (cause : Integer.Fault)
  | tooSmall
  /-- One of a few words was expected. -/
  | unknownWord
  deriving DecidableEq, Repr

def FaultKind.label : FaultKind → String
  | missing => "missing"
  | extra => "extra_forbidden"
  | invalidKey => "invalid_key"
  | notMapping => "model_type"
  | notList => "list_type"
  | notText => "string_type"
  | undecodable => "string_unicode"
  | integer .wrongSort => "int_type"
  | integer .notWritten => "int_parsing"
  | integer .fractional => "int_from_float"
  | integer .infinite => "finite_number"
  | integer .tooLarge => "int_parsing_size"
  | tooSmall => "greater_than_equal"
  | unknownWord => "literal_error"

/-- A fault with the place it occurs at. -/
structure Fault where
  /-- The way to the place, from the outside in. -/
  location : List Step
  kind : FaultKind
  deriving DecidableEq, Repr

/-- A fault seen from one step further out. -/
def Fault.under
    (step : Step)
    (fault : Fault) :
    Fault :=
  { fault with location := step :: fault.location }

/-- What reading a value gives: a result, or all the faults there are. -/
abbrev Reading (α : Type) := Except (List Fault) α

/-- A reading that fails at the place itself. -/
def refuse
    {α : Type}
    (kind : FaultKind) :
    Reading α :=
  .error [⟨[], kind⟩]

/-- A reading whose faults are seen from one step further out. -/
def under
    {α : Type}
    (step : Step)
    (reading : Reading α) :
    Reading α :=
  reading.mapError (List.map (Fault.under step))

def faultsOf
    {α : Type} :
    Reading α → List Fault
  | .ok _ => []
  | .error faults => faults

/-! ## Values of fields -/

def readInt : Value → Reading Int
  | .scalar (.bool value) => .ok (if value then 1 else 0)
  | .scalar (.int value) => .ok value
  | .scalar (.real value) =>
      (Integer.ofReal value).mapError fun cause => [⟨[], .integer cause⟩]
  | .scalar (.text value) =>
      (Integer.ofText value).mapError fun cause => [⟨[], .integer cause⟩]
  | .scalar (.bytes value) =>
      match Text.decodeUtf8? value with
      | none => refuse (.integer .notWritten)
      | some text =>
          (Integer.ofText text).mapError fun cause => [⟨[], .integer cause⟩]
  | _ => refuse (.integer .wrongSort)

/-- A whole number that is at least a given one. -/
def readAtLeast
    (least : Nat)
    (value : Value) :
    Reading Nat :=
  match readInt value with
  | .error faults => .error faults
  | .ok number => if least ≤ number then .ok number.toNat else refuse .tooSmall

def readText : Value → Reading (List Char)
  | .scalar (.text value) => .ok value
  | .scalar (.bytes value) =>
      match Text.decodeUtf8? value with
      | none => refuse .undecodable
      | some text => .ok text
  | _ => refuse .notText

def readVerdict : Value → Reading Verdict
  | .scalar (.text value) =>
      match Verdict.ofLabel? value with
      | some verdict => .ok verdict
      | none => refuse .unknownWord
  | _ => refuse .unknownWord

/-! ## Fields of a mapping -/

structure Field where
  name : String
  innerName : String

/-- The name that a field is given by, with its value. -/
def Field.find?
    (field : Field)
    (entries : Entries) :
    Option (List Char × Value) :=
  match entries.getText? field.name with
  | some value => some (field.name.toList, value)
  | none => (entries.getText? field.innerName).map fun value => (field.innerName.toList, value)

def Field.read
    {α : Type}
    (field : Field)
    (entries : Entries)
    (reader : Value → Reading α) :
    Reading α :=
  match field.find? entries with
  | some (name, value) => under (.key name) (reader value)
  | none => under (.key field.name.toList) (refuse .missing)

def Field.readOr
    {α : Type}
    (field : Field)
    (entries : Entries)
    (default : α)
    (reader : Value → Reading α) :
    Reading α :=
  match field.find? entries with
  | some (name, value) => under (.key name) (reader value)
  | none => .ok default

def stepOf : Scalar → Step
  | .text name => .key name
  | .bool value => .index (if value then 1 else 0)
  | .int value =>
      if -Integer.reach ≤ value && value < Integer.reach then
        .index value
      else
        .key (Scalar.int value).described
  | key => .key key.described

/-- The faults of the keys of a mapping: every key has to be the name of a field in use. -/
def keyFaults
    (fields : List Field)
    (entries : Entries) :
    List Fault :=
  let used := fields.filterMap fun field => (field.find? entries).map Prod.fst
  entries.filterMap fun (key, _) =>
    match key with
    | .text name => if used.contains name then none else some ⟨[.key name], .extra⟩
    | key => some ⟨[stepOf key], .invalidKey⟩

/-! ## Units and transcripts -/

def indexField : Field := ⟨"index", "index"⟩

def firstLineField : Field := ⟨"first-line", "first_line"⟩

def lastLineField : Field := ⟨"last-line", "last_line"⟩

def statusField : Field := ⟨"status", "status"⟩

def textField : Field := ⟨"text", "text"⟩

def unitFields : List Field :=
  [indexField, firstLineField, lastLineField, statusField, textField]

def sourceField : Field := ⟨"source", "source"⟩

def unitsField : Field := ⟨"units", "units"⟩

def transcriptFields : List Field := [sourceField, unitsField]

/-- The unit that the entries of a mapping describe. -/
def readUnitEntries
    (entries : Entries) :
    Reading UnitRecord :=
  let index := indexField.read entries (readAtLeast 0)
  let firstLine := firstLineField.read entries (readAtLeast 1)
  let lastLine := lastLineField.read entries (readAtLeast 1)
  let status := statusField.read entries readVerdict
  let text := textField.read entries readText
  let unknown := keyFaults unitFields entries
  match index, firstLine, lastLine, status, text, unknown with
  | .ok index, .ok firstLine, .ok lastLine, .ok status, .ok text, [] =>
      .ok { index, firstLine, lastLine, status, text }
  | index, firstLine, lastLine, status, text, unknown =>
      .error
        (faultsOf index ++ faultsOf firstLine ++ faultsOf lastLine ++ faultsOf status ++
          faultsOf text ++ unknown)

def readUnit : Value → Reading UnitRecord
  | .mapping entries => readUnitEntries entries
  | _ => refuse .notMapping

/-- The units that the items of a list describe, counted from an index. -/
def readItems (index : Nat) : List Value → Reading (List UnitRecord)
  | [] => .ok []
  | item :: rest =>
      match under (.index index) (readUnit item), readItems (index + 1) rest with
      | .ok unit, .ok units => .ok (unit :: units)
      | unit, units => .error (faultsOf unit ++ faultsOf units)

def readUnits : Value → Reading (List UnitRecord)
  | .sequence items => readItems 0 items
  | .set elements => readItems 0 (elements.map Value.scalar)
  | _ => refuse .notList

/-- The transcript that the entries of a mapping describe. -/
def readEntries
    (entries : Entries) :
    Reading Transcript :=
  let source := sourceField.readOr entries "<stdin>".toList readText
  let units := unitsField.readOr entries [] readUnits
  let unknown := keyFaults transcriptFields entries
  match source, units, unknown with
  | .ok source, .ok units, [] => .ok { source, units }
  | source, units, unknown => .error (faultsOf source ++ faultsOf units ++ unknown)

def read : Value → Reading Transcript
  | .mapping entries => readEntries entries
  | _ => refuse .notMapping

/-! ## Transcripts to values -/

def key
    (field : Field) :
    Scalar :=
  .text field.name.toList

def ofUnit
    (unit : UnitRecord) :
    Value :=
  .mapping
    [ (key indexField, .int unit.index),
      (key firstLineField, .int unit.firstLine),
      (key lastLineField, .int unit.lastLine),
      (key statusField, .text unit.status.label.toList),
      (key textField, .text unit.text) ]

def ofTranscript
    (transcript : Transcript) :
    Value :=
  .mapping
    [ (key sourceField, .text transcript.source),
      (key unitsField, .sequence (transcript.units.map ofUnit)) ]

end Delimit.Transcript.Schema
