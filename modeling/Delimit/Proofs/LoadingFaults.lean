import Delimit.Command.Run
import Delimit.Proofs.NodeFaults
import Delimit.Proofs.ReaderFaults
import Delimit.Proofs.ValueFaults

/-!
# Faults of loading

A configuration or a transcript that is loaded is given or refused with a report,
unless the bytes are no text or the document in it breaks down.  Every breakdown of a
document has a place in it: an escape or a version of the format that is out of range,
a scalar that is no value of its tag, or collections that are nested deeply.
-/

namespace Delimit

namespace Yaml

open Node (Part)

/-- A text holds a document, and this is its node. -/
def IsDocument
    (text : List Char)
    (node : Node) :
    Prop :=
  Node.ofTokens? (tokensOf text) = .ok (some node)

/-- What a document in a text may break down at. -/
inductive Hazard (text : List Char) : Breakdown → Prop where
  /-- An escape or a directive is out of range. -/
  | token {cause : Breakdown}
      (hazard : TokenHazard text cause) :
      Hazard text cause
  /-- Collections are nested deeply. -/
  | deep
      (nested : Node.nestingLimit ≤ 2 * Node.nesting (tokensOf text)) :
      Hazard text .tooDeep
  /-- A scalar is no value of its tag. -/
  | scalar {node : Node} {properties : Properties} {plain : Bool} {written : List Char}
      {cause : Breakdown}
      (document : IsDocument text node)
      (inside : Part (.scalar properties plain written) node)
      (broken : Meaning.ofScalar (Tag.ofScalar properties plain written) written =
        .error (.breakdown cause)) :
      Hazard text cause
  /-- A merge key leads to mappings that are merged too deeply. -/
  | merge {node part : Node}
      (document : IsDocument text node)
      (inside : Part part node)
      (tag : part.tag = .merge) :
      Hazard text .tooDeep
  /-- The key of a default value lends a mapping the text of a scalar. -/
  | default {node part : Node} {cause : Breakdown}
      (document : IsDocument text node)
      (inside : Part part node)
      (tag : part.tag = .defaultValue) :
      Hazard text cause

section

variable {node : Node}

/-- The tag of a node of a graph is that of a part, unless it is no tag of the format. -/
theorem exists_part_of_tag
    {id : NodeId}
    {tag : Tag}
    (found : (Graph.ofNode node).tag id = tag)
    (known : tag ≠ .unknown) :
    ∃ part, Part part node ∧ part.tag = tag := by
  unfold Graph.tag at found
  split at found
  · rename_i vertex standing
    rcases Graph.madeOf_ofNode node id vertex standing with ⟨part, inside, same, -⟩
    exact ⟨part, inside, same.symm.trans found⟩
  · exact (known found.symm).elim

/-- What the graph of a node breaks down at is a part of the node. -/
theorem exists_part_of_hazard
    {cause : Breakdown}
    (hazard : (Graph.ofNode node).Hazard cause) :
    (∃ properties plain written, Part (.scalar properties plain written) node ∧
        Meaning.ofScalar (Tag.ofScalar properties plain written) written =
          .error (.breakdown cause)) ∨
      cause = .tooDeep ∧ ∃ part, Part part node ∧ part.tag = .merge := by
  cases hazard with
  | merge tag => exact .inr ⟨rfl, exists_part_of_tag tag (by decide)⟩
  | @scalar id written _ text broken =>
      left
      cases found : (Graph.ofNode node).vertices[id]? with
      | none =>
          rw [Graph.tag, found] at broken
          cases broken
      | some vertex =>
          rw [Graph.tag, found] at broken
          rw [Graph.content, found] at text
          rcases Graph.madeOf_ofNode node id vertex found with ⟨part, inside, tag, scalar⟩
          rcases scalar written text with ⟨properties, plain, rfl⟩
          dsimp only at broken
          rw [tag] at broken
          exact ⟨properties, plain, written, inside, broken⟩

/-- The value of a document breaks down at one of its parts. -/
theorem ofNode_yields
    {text : List Char}
    (document : IsDocument text node) :
    Yields (fun _ => True) (Hazard text) (Value.ofNode node) := by
  by_cases plain : (Graph.ofNode node).Plain
  · refine Yields.bind ((Construction.goesOn_ofGraph plain).mono (fun _ _ => trivial) ?_)
      fun _ _ => yields_pure trivial
    intro cause hazard
    rcases exists_part_of_hazard hazard with
      ⟨properties, plain, written, inside, broken⟩ | ⟨rfl, part, inside, tag⟩
    · exact .scalar document inside broken
    · exact .merge document inside tag
  · rcases not_forall_not.mp plain with ⟨id, tag⟩
    rcases exists_part_of_tag tag (by decide) with ⟨part, inside, same⟩
    exact yields_true_iff.mpr fun _ _ => .default document inside same

end

/-- Every breakdown of a document comes from a hazard in its text. -/
theorem hazard_of_breakdown
    {text : List Char}
    {cause : Breakdown}
    (broken : read text = .error (.breakdown cause)) :
    Hazard text cause := by
  have tokens : Yields (fun _ => True) (Hazard text) (Node.ofTokens? (tokensOf text)) := by
    refine (Node.ofTokens?_yields (tokensOf text)).mono (fun _ holds => holds) ?_
    intro cause hazard
    cases hazard with
    | token member => exact .token (tokensOf_hazard member)
    | deep nested => exact .deep (by omega)
  have yields : Yields (fun _ => True) (Hazard text) (read text) := by
    refine yields_ite (fun _ => ?_) (yields_error rfl)
    refine tokens.eq_ok.bind fun node? document => ?_
    cases node? with
    | none => exact yields_pure trivial
    | some node => exact ofNode_yields document
  exact yields_true_iff.mp yields cause broken

end Yaml

namespace Storage

open Files (Path Reason OpenFault System)

/-- The bytes that were found write a text, here with its line ends unified. -/
def HoldsText
    (contents : Except Reason (List UInt8))
    (text : List Char) :
    Prop :=
  ∃ bytes written, contents = .ok bytes ∧ Text.decodeUtf8? bytes = some written ∧
    text = Text.unifyLineEnds written

/-- Loading the contents of a file breaks down. -/
inductive Breaks (contents : Except Reason (List UInt8)) : Breakdown → Prop where
  | undecodable {bytes : List UInt8}
      (found : contents = .ok bytes)
      (invalid : Text.decodeUtf8? bytes = none) :
      Breaks contents .undecodable
  | document {text : List Char} {cause : Yaml.Breakdown}
      (holds : HoldsText contents text)
      (broken : Yaml.read text = .error (.breakdown cause)) :
      Breaks contents (.value cause)

/-- A key of the mapping that was found is a number that is too long to be shown. -/
def HoldsLongKey
    (contents : Except Reason (List UInt8)) :
    Prop :=
  ∃ text value, HoldsText contents text ∧ Yaml.read text = .ok value ∧
    hasLongKey value = true

theorem Breaks.hazard
    {contents : Except Reason (List UInt8)}
    {cause : Yaml.Breakdown}
    (breaks : Breaks contents (.value cause)) :
    ∃ text, HoldsText contents text ∧ Yaml.Hazard text cause := by
  cases breaks with
  | document holds broken => exact ⟨_, holds, Yaml.hazard_of_breakdown broken⟩

theorem bind_eq_error_iff
    {ε α β : Type}
    {first : Except ε α}
    {next : α → Except ε β}
    {error : ε} :
    (first >>= next) = .error error ↔
      first = .error error ∨ ∃ value, first = .ok value ∧ next value = .error error := by
  cases first with
  | ok value => simp [bind, Except.bind]
  | error other => simp [bind, Except.bind]

section

variable
    {ε : Type}
    {text : List Char}
    {invalid : ε}

theorem readValue_broken_iff
    {cause : Breakdown} :
    readValue text invalid = .error (.broken cause) ↔
      ∃ breakdown, Yaml.read text = .error (.breakdown breakdown) ∧
        cause = .value breakdown := by
  unfold readValue
  cases Yaml.read text with
  | ok value => simp
  | error fault => cases fault <;> simp [Yaml.Fault.breakdown?, eq_comm]

theorem readValue_ok_iff
    {value : Yaml.Value} :
    readValue text invalid = .ok value ↔ Yaml.read text = .ok value := by
  unfold readValue
  cases Yaml.read text with
  | ok value => simp
  | error fault => cases fault <;> simp [Yaml.Fault.breakdown?]

end

section

variable
    {system : System}
    {path : Path}
    {contents : Except Reason (List UInt8)}
    (found : system.bytes path = contents.mapError .refused)

include found

theorem readUnified_ok_iff
    {ε : Type}
    (refusal : Reason → ε)
    {text : List Char} :
    readUnified system path refusal = .ok text ↔ HoldsText contents text := by
  unfold readUnified System.readText HoldsText
  rw [found]
  cases contents with
  | error reason => simp [Except.mapError]
  | ok bytes => cases decoded : Text.decodeUtf8? bytes <;> simp [Except.mapError, decoded, eq_comm]

theorem readUnified_broken_iff
    {ε : Type}
    (refusal : Reason → ε)
    {cause : Breakdown} :
    readUnified system path refusal = .error (.broken cause) ↔
      ∃ bytes, contents = .ok bytes ∧ Text.decodeUtf8? bytes = none ∧
        cause = .undecodable := by
  unfold readUnified System.readText
  rw [found]
  cases contents with
  | error reason => simp [Except.mapError]
  | ok bytes => cases decoded : Text.decodeUtf8? bytes <;> simp [Except.mapError, decoded, eq_comm]

/-- A loader breaks down at what was found, or at the value that it holds. -/
theorem load_broken_iff
    {ε α : Type}
    (refusal : Reason → ε)
    (invalid : ε)
    (next : Yaml.Value → Except (Trouble ε) α)
    (cause : Breakdown) :
    (do
        let text ← readUnified system path refusal
        let value ← readValue text invalid
        next value) = .error (.broken cause) ↔
      Breaks contents cause ∨ ∃ text value, HoldsText contents text ∧
        Yaml.read text = .ok value ∧ next value = .error (.broken cause) := by
  simp only [bind_eq_error_iff, readUnified_broken_iff found, readUnified_ok_iff found,
    readValue_broken_iff, readValue_ok_iff]
  constructor
  · rintro (⟨bytes, same, invalid, rfl⟩ | ⟨text, holds, ⟨breakdown, broken, rfl⟩ | loaded⟩)
    · exact .inl (.undecodable same invalid)
    · exact .inl (.document holds broken)
    · rcases loaded with ⟨value, read, broken⟩
      exact .inr ⟨text, value, holds, read, broken⟩
  · rintro (breaks | ⟨text, value, holds, read, broken⟩)
    · cases breaks with
      | undecodable same invalid => exact .inl ⟨_, same, invalid, rfl⟩
      | document holds broken => exact .inr ⟨_, holds, .inl ⟨_, broken, rfl⟩⟩
    · exact .inr ⟨text, holds, .inr ⟨value, read, broken⟩⟩

theorem loadTranscript_broken_iff
    (cause : Breakdown) :
    loadTranscript system path = .error (.broken cause) ↔ Breaks contents cause := by
  refine (load_broken_iff found _ _ _ cause).trans ⟨?_, .inl⟩
  rintro (breaks | ⟨text, value, -, -, broken⟩)
  · exact breaks
  · cases read : Transcript.Schema.read (orEmptyMapping value) <;> rw [read] at broken <;>
      cases broken

theorem loadConfig_broken_iff
    (cause : Breakdown) :
    loadConfig system path = .error (.broken cause) ↔
      Breaks contents cause ∨ HoldsLongKey contents ∧ cause = .value .badNumber := by
  refine (load_broken_iff found _ _ _ cause).trans (or_congr_right ?_)
  constructor
  · rintro ⟨text, value, holds, read, broken⟩
    cases long : hasLongKey value with
    | true =>
        rw [long] at broken
        cases broken
        exact ⟨⟨text, value, holds, read, long⟩, rfl⟩
    | false =>
        rw [long] at broken
        change (Config.ofValue value).mapError _ = _ at broken
        cases result : Config.ofValue value <;> rw [result] at broken <;> cases broken
  · rintro ⟨⟨text, value, holds, read, long⟩, rfl⟩
    refine ⟨text, value, holds, read, ?_⟩
    rw [long]
    rfl

end

end Storage

namespace Command

open Files (Path)
open Storage (loadConfig)

section

variable
    {surroundings : Surroundings}
    {given? : Option (List Char)}
    {path : Path}
    (chosen : configPath surroundings given? = .ok (some path))

include chosen

theorem resolveConfig_eq :
    resolveConfig surroundings given? =
      match loadConfig surroundings.system path with
      | .ok config => .ok (.ok config)
      | .error (.reported fault) => .ok (.error fault.message)
      | .error (.broken cause) => .error cause := by
  unfold resolveConfig
  rw [chosen]
  rfl

/-- A configuration that is refused ends a command with a line for errors. -/
theorem perform_of_reported
    {fault : Storage.ConfigFault}
    (reported : loadConfig surroundings.system path = .error (.reported fault))
    (task : Task) :
    perform surroundings (.task given? task) = .ok
      { exit := 1
        output := []
        errors := ("Error: " ++ fault.message ++ "\n").toList
        written? := none } := by
  unfold perform
  dsimp only
  rw [resolveConfig_eq chosen, reported]
  rfl

/-- A command breaks down with its configuration. -/
theorem perform_of_broken
    {cause : Storage.Breakdown}
    (broken : loadConfig surroundings.system path = .error (.broken cause))
    (task : Task) :
    perform surroundings (.task given? task) = .error cause := by
  unfold perform
  dsimp only
  rw [resolveConfig_eq chosen, broken]
  rfl

end

end Command

namespace Storage

open Command (Surroundings Task Outcome configPath resolveConfig perform)
open Files (Path Reason System)

/--
Whatever is found at a path, a loader breaks down instead of giving a result or a report
exactly if the bytes are no text or the document in it breaks down; a configuration
also does if it has a key that is a number too long to be shown.  A document breaks
down at a hazard in its text only.  A command that loads the configuration goes on with
it, ends with the report, or breaks down as the loader does.
-/
theorem loading_broken_iff
    {system : System}
    {path : Path}
    {contents : Except Reason (List UInt8)}
    (found : system.bytes path = contents.mapError .refused) :
    (∀ cause, loadTranscript system path = .error (.broken cause) ↔
        Breaks contents cause) ∧
      (∀ cause, loadConfig system path = .error (.broken cause) ↔
        Breaks contents cause ∨ HoldsLongKey contents ∧ cause = .value .badNumber) ∧
      (∀ cause, Breaks contents (.value cause) →
        ∃ text, HoldsText contents text ∧ Yaml.Hazard text cause) ∧
      ∀ (surroundings : Surroundings) (given? : Option (List Char)) (task : Task),
        surroundings.system = system →
        configPath surroundings given? = .ok (some path) →
          (∀ config, loadConfig system path = .ok config →
            resolveConfig surroundings given? = .ok (.ok config)) ∧
          (∀ fault, loadConfig system path = .error (.reported fault) →
            perform surroundings (.task given? task) = .ok
              { exit := 1
                output := []
                errors := ("Error: " ++ fault.message ++ "\n").toList
                written? := none }) ∧
          ∀ cause, loadConfig system path = .error (.broken cause) →
            perform surroundings (.task given? task) = .error cause := by
  refine ⟨loadTranscript_broken_iff found, loadConfig_broken_iff found,
    fun _ breaks => breaks.hazard, ?_⟩
  rintro surroundings given? task rfl chosen
  refine ⟨?_, ?_, ?_⟩
  · intro config loaded
    rw [Command.resolveConfig_eq chosen, loaded]
  · exact fun fault reported => Command.perform_of_reported chosen reported task
  · exact fun cause broken => Command.perform_of_broken chosen broken task

/-- A tree with the bytes of a configuration, in which a command is run. -/
def configTree
    (bytes : List UInt8) :
    Files.Tree :=
  ⟨[([configName], bytes)], [], []⟩

/-- A configuration with a prompt that is written as a date of no calendar. -/
def strangeDate : List UInt8 := "prompt: 2024-13-45\n".toUTF8.toList

/-- A date that is none is no value of its tag, and ends a command without a report. -/
theorem loading_broken_strangeDate :
    let system := (configTree strangeDate).system
    let path := (Path.ofText []).child configName
    loadConfig system path = .error (.broken (.value .badNumber)) ∧
      loadTranscript system path = .error (.broken (.value .badNumber)) ∧
      (∃ text, HoldsText (.ok strangeDate) text ∧ Yaml.Hazard text .badNumber) ∧
      perform { system, working := Path.ofText [], input := [] } (.task none .repl) =
        .error (.value .badNumber) := by
  intro system path
  have found : system.bytes path = Except.mapError .refused (.ok strangeDate) := by
    decide +kernel
  have chosen : configPath { system, working := Path.ofText [], input := [] } none =
      .ok (some path) := by
    decide +kernel
  have decoded : Text.decodeUtf8? strangeDate = some "prompt: 2024-13-45\n".toList := by
    decide +kernel
  have fault : (match Yaml.read (Text.unifyLineEnds "prompt: 2024-13-45\n".toList) with
      | .error fault => some fault
      | .ok _ => none) = some (.breakdown .badNumber) := by
    decide +kernel
  have breaks : Breaks (.ok strangeDate) (.value .badNumber) := by
    refine .document ⟨_, _, rfl, decoded, rfl⟩ ?_
    split at fault
    · rename_i same
      cases fault
      exact same
    · cases fault
  obtain ⟨transcript, config, hazard, command⟩ := loading_broken_iff found
  have broken := (config (.value .badNumber)).mpr (.inl breaks)
  exact ⟨broken, (transcript _).mpr breaks, hazard _ breaks,
    (command _ none .repl rfl chosen).2.2 _ broken⟩

/-- A byte that begins no character is neither loaded nor reported. -/
theorem not_forall_loaded_or_reported :
    ¬ ∀ (system : System) (path : Path) (contents : Except Reason (List UInt8)),
      system.bytes path = contents.mapError .refused →
        ((∃ config, loadConfig system path = .ok config) ∨
            ∃ fault, loadConfig system path = .error (.reported fault)) ∧
          ((∃ transcript, loadTranscript system path = .ok transcript) ∨
            ∃ fault, loadTranscript system path = .error (.reported fault)) := by
  intro claimed
  have found : (configTree [0xFF]).system.bytes ((Path.ofText []).child configName) =
      Except.mapError .refused (.ok [0xFF]) := by
    decide +kernel
  have breaks : Breaks (.ok [0xFF]) .undecodable := .undecodable rfl (by decide +kernel)
  have broken := (loadConfig_broken_iff found _).mpr (.inl breaks)
  rcases (claimed _ _ _ found).1 with ⟨config, loaded⟩ | ⟨fault, reported⟩
  · rw [broken] at loaded
    cases loaded
  · rw [broken] at reported
    cases reported

end Storage

end Delimit
