import Delimit.Proofs.ConfigSchema
import Delimit.Proofs.LoadingFaults

/-!
# Loaded configurations

A configuration file is loaded as the value of its document is read.  Only a key that is
a number too long to be shown gets in the way: it is unknown, but cannot be named in the
report.  The order of the entries in the file does not matter.
-/

namespace Delimit

open Yaml (Value Scalar Entries)

namespace Storage

open Files (Path Reason System)

/-- A key that is too long to be shown is unknown. -/
theorem hasLongKey_of_known
    {entries : Entries}
    (known : Config.unknownKeys entries = []) :
    hasLongKey (.mapping entries) = false := by
  rw [hasLongKey, List.any_eq_false]
  intro entry member
  obtain ⟨field, same⟩ := Config.unknownKeys_eq_nil_iff.mp known entry member
  rw [same]
  exact Bool.false_ne_true

theorem hasLongKey_of_fits
    {value : Value}
    (fits : Config.Fits value) :
    hasLongKey value = false := by
  obtain rfl | ⟨entries, rfl, -⟩ := id fits
  · rfl
  · exact hasLongKey_of_known (Config.fits_mapping_iff.mp fits).1

theorem hasLongKey_of_perm
    {entries others : Entries}
    (same : entries.Perm others) :
    hasLongKey (.mapping entries) = hasLongKey (.mapping others) :=
  same.any_eq

theorem mapError_eq_mapError_iff
    {ε δ α : Type}
    {convert : ε → δ}
    (injective : Function.Injective convert)
    {first second : Except ε α} :
    first.mapError convert = second.mapError convert ↔ first = second := by
  cases first <;> cases second <;> simp [Except.mapError, injective.eq_iff]

theorem mapError_eq_ok_iff
    {ε δ α : Type}
    {convert : ε → δ}
    {result : Except ε α}
    {value : α} :
    result.mapError convert = .ok value ↔ result = .ok value := by
  cases result <;> simp [Except.mapError]

section

variable
    {system : System}
    {path : Path}
    {contents : Except Reason (List UInt8)}
    (found : system.bytes path = contents.mapError .refused)
    {text : List Char}
    (holds : HoldsText contents text)
    {value : Value}
    (read : Yaml.read text = .ok value)

include found holds read

/-- A configuration is read off the value of the document that a file holds. -/
theorem loadConfig_eq :
    loadConfig system path =
      if hasLongKey value then
        .error (.broken (.value .badNumber))
      else
        (Config.ofValue value).mapError fun fault => .reported (.noConfig fault path) := by
  unfold loadConfig
  rw [(readUnified_ok_iff found _).mpr holds]
  dsimp only [bind, Except.bind]
  rw [readValue_ok_iff.mpr read]
  dsimp only
  cases hasLongKey value <;> rfl

/-- A key that is too long to be shown does not change what is a configuration. -/
theorem loadConfig_ok_iff
    {config : Config} :
    loadConfig system path = .ok config ↔ Config.ofValue value = .ok config := by
  rw [loadConfig_eq found holds read]
  cases long : hasLongKey value with
  | false => exact mapError_eq_ok_iff
  | true =>
      constructor
      · intro accepted
        cases accepted
      · intro accepted
        have distinct := Config.distinct_entriesOf read
        have fits := (Config.exists_ofValue_eq_ok_iff distinct).mp ⟨config, accepted⟩
        rw [hasLongKey_of_fits fits] at long
        cases long

end

/--
A file with a document is loaded as a configuration exactly if the document's value fits.
Unless a key is a number too long to be shown, which is a breakdown, loading comes to the
only outcome of the value.  A file whose document has the same entries in another order
is loaded with the same result.
-/
theorem loadConfig_schema
    {system : System}
    {path : Path}
    {contents : Except Reason (List UInt8)}
    (found : system.bytes path = contents.mapError .refused)
    {text : List Char}
    (holds : HoldsText contents text)
    {value : Value}
    (read : Yaml.read text = .ok value) :
    ((∃ config, loadConfig system path = .ok config) ↔ Config.Fits value) ∧
      (hasLongKey value = true →
        loadConfig system path = .error (.broken (.value .badNumber))) ∧
      (hasLongKey value = false → ∀ outcome : Except Config.Fault Config,
        loadConfig system path =
            outcome.mapError (fun fault => .reported (.noConfig fault path)) ↔
          Config.Outcome value outcome) ∧
      ∀ (other : System) (otherContents : Except Reason (List UInt8))
          (otherText : List Char) (entries others : Entries),
        value = .mapping entries →
          other.bytes path = otherContents.mapError .refused →
            HoldsText otherContents otherText →
              Yaml.read otherText = .ok (.mapping others) →
                entries.Perm others →
                  loadConfig other path = loadConfig system path := by
  have loaded := loadConfig_eq found holds read
  have distinct := Config.distinct_entriesOf read
  refine ⟨?_, ?_, ?_, ?_⟩
  · simp only [loadConfig_ok_iff found holds read]
    exact Config.exists_ofValue_eq_ok_iff distinct
  · intro long
    rw [loaded, if_pos long]
  · intro short outcome
    rw [loaded, short, ← Config.ofValue_eq_iff distinct]
    refine mapError_eq_mapError_iff fun first second same => ?_
    cases same
    rfl
  · intro other otherContents otherText entries others mapping otherFound otherHolds
      otherRead same
    subst mapping
    have values : Config.ofValue (.mapping entries) = Config.ofValue (.mapping others) :=
      Config.ofEntries_of_perm same distinct (Yaml.distinct_of_read otherRead)
    rw [loaded, loadConfig_eq otherFound otherHolds otherRead, hasLongKey_of_perm same,
      values]

/-! ## What a report names -/

namespace ConfigFault

/-- The texts that a fault names: the file, and what the fault is about. -/
def named : ConfigFault → List (List Char)
  | notFound path => [path.text]
  | unreadable reason path => [reason.words.toList, Text.quoted path.text]
  | noDocument path => [path.text]
  | noConfig fault path => path.text :: fault.named

/-- The message of a fault holds every text that the fault names. -/
theorem infix_message
    {fault : ConfigFault}
    {text : List Char}
    (names : text ∈ fault.named) :
    text <:+: fault.message.toList := by
  cases fault with
  | notFound path =>
      obtain rfl := List.mem_singleton.mp names
      exact Config.infix_toList_append_right (Config.infix_toList_ofList _)
  | unreadable reason path =>
      simp only [named, List.mem_cons, List.not_mem_nil, or_false] at names
      refine Config.infix_toList_append_right ?_
      rcases names with rfl | rfl
      · exact Config.infix_toList_append_left (Config.infix_toList_append_left
          (Config.infix_toList_append_right List.infix_rfl))
      · exact Config.infix_toList_append_right (Config.infix_toList_ofList _)
  | noDocument path =>
      obtain rfl := List.mem_singleton.mp names
      exact Config.infix_toList_append_right (Config.infix_toList_ofList _)
  | noConfig fault path =>
      rcases List.mem_cons.mp names with rfl | names
      · exact Config.infix_toList_append_left (Config.infix_toList_append_left
          (Config.infix_toList_ofList _))
      · exact Config.infix_toList_append_right (Config.Fault.infix_words names)

end ConfigFault

/-- A command names the file and all unknown keys of its configuration. -/
theorem exists_perform_of_unknownKeys
    {surroundings : Command.Surroundings}
    {given? : Option (List Char)}
    {path : Path}
    (chosen : Command.configPath surroundings given? = .ok (some path))
    {contents : Except Reason (List UInt8)}
    (found : surroundings.system.bytes path = contents.mapError .refused)
    {text : List Char}
    (holds : HoldsText contents text)
    {entries : Entries}
    (read : Yaml.read text = .ok (.mapping entries))
    (short : hasLongKey (.mapping entries) = false)
    (unknown : Config.unknownKeys entries ≠ [])
    (task : Command.Task) :
    ∃ outcome, Command.perform surroundings (.task given? task) = .ok outcome ∧
      outcome.exit = 1 ∧ path.text <:+: outcome.errors ∧
        ∀ key ∈ Config.unknownKeys entries, key.shown <:+: outcome.errors := by
  have refused : Config.ofValue (.mapping entries) =
      .error (.unknownFields (Config.unknownNames entries)) := by
    have distinct := Config.distinct_entriesOf read
    exact (Config.ofEntries_eq distinct).trans
      (if_neg (mt Config.unknownNames_eq_nil_iff.mp unknown))
  have reported : loadConfig surroundings.system path =
      .error (.reported (.noConfig (.unknownFields (Config.unknownNames entries)) path)) := by
    rw [loadConfig_eq found holds read, short, refused]
    rfl
  have held : ∀ name : List Char, name ∈ path.text :: Config.unknownNames entries →
      name <:+: ("Error: " ++ (ConfigFault.noConfig
        (.unknownFields (Config.unknownNames entries)) path).message ++ "\n").toList := by
    intro name names
    exact Config.infix_toList_append_left
      (Config.infix_toList_append_right (ConfigFault.infix_message names))
  refine ⟨_, Command.perform_of_reported chosen reported task, rfl,
    held _ List.mem_cons_self, ?_⟩
  intro key member
  refine held _ (.tail _ ?_)
  have each := (Config.unknownNames_eq_iff.mp (Eq.refl (Config.unknownNames entries))).1
  exact each.mem_iff.mpr (List.mem_map_of_mem member)

/-- A file in the working directory holds the text that it was made of. -/
theorem bytes_configTree
    (bytes : List UInt8) :
    (configTree bytes).system.bytes ((Path.ofText []).child configName) =
      Except.mapError .refused (.ok bytes) := by
  rfl

theorem holdsText_encodeUtf8
    {text : List Char}
    (without : '\r' ∉ text) :
    HoldsText (.ok (Text.encodeUtf8 text)) text :=
  ⟨_, text, rfl, Text.decodeUtf8?_encodeUtf8 text,
    (Text.unifyLineEnds_of_not_mem without).symm⟩

/-- The entries of a mapping of two keys to scalars. -/
def twoScalars? : Except Yaml.Fault Value → Option ((Scalar × Scalar) × Scalar × Scalar)
  | .ok (.mapping [(first, .scalar one), (second, .scalar two)]) =>
      some ((first, one), second, two)
  | _ => none

theorem eq_of_twoScalars?
    {reading : Except Yaml.Fault Value}
    {first one second two : Scalar}
    (found : twoScalars? reading = some ((first, one), second, two)) :
    reading = .ok (.mapping [(first, .scalar one), (second, .scalar two)]) := by
  unfold twoScalars? at found
  split at found
  · cases found
    rfl
  · cases found

def promptFirst : List Char := "prompt: x\nindent-width: 0x10\n".toList

def widthFirst : List Char := "indent-width: 16\nprompt: x\n".toList

/-- The same two fields are loaded in both orders; the other fields have their defaults. -/
theorem loadConfig_schema_widthFirst :
    let path := (Path.ofText []).child configName
    loadConfig (configTree (Text.encodeUtf8 promptFirst)).system path =
        .ok { prompt := ['x'], indentWidth := 16 } ∧
      loadConfig (configTree (Text.encodeUtf8 widthFirst)).system path =
        .ok { prompt := ['x'], indentWidth := 16 } := by
  intro path
  have first : twoScalars? (Yaml.read promptFirst) =
      some ((.text "prompt".toList, .text ['x']), .text "indent-width".toList, .int 16) := by
    decide +kernel
  have second : twoScalars? (Yaml.read widthFirst) =
      some ((.text "indent-width".toList, .int 16), .text "prompt".toList, .text ['x']) := by
    decide +kernel
  have first := eq_of_twoScalars? first
  obtain ⟨-, -, outcome, order⟩ := loadConfig_schema (bytes_configTree _)
    (holdsText_encodeUtf8 (by decide)) first
  have taken : Config.ofValue (.mapping
      [ (.text "prompt".toList, .scalar (.text ['x'])),
        (.text "indent-width".toList, .scalar (.int 16)) ]) =
      .ok { prompt := ['x'], indentWidth := 16 } := by
    decide +kernel
  have accepted := (outcome rfl _).mpr
    ((Config.ofValue_eq_iff (Config.distinct_entriesOf first) _).mp taken)
  refine ⟨accepted, (order _ _ _ _ _ rfl (bytes_configTree _)
    (holdsText_encodeUtf8 (by decide)) (eq_of_twoScalars? second) ?_).trans accepted⟩
  exact List.Perm.swap _ _ _

/-- A file with a key of so many hexadecimal digits that it has too many decimal ones. -/
def longKeyText : List Char :=
  "? 0x".toList ++ List.replicate 3572 'f' ++ "\n: 1\n".toList

/-- An unknown key that is a number too long to be shown is not reported. -/
theorem not_forall_unknownKeys_reported :
    ¬ ∀ (system : System) (path : Path) (contents : Except Reason (List UInt8))
        (text : List Char) (entries : Entries),
      system.bytes path = contents.mapError .refused →
        HoldsText contents text →
          Yaml.read text = .ok (.mapping entries) →
            Config.unknownKeys entries ≠ [] →
              ∃ names, names.Perm ((Config.unknownKeys entries).map Scalar.shown) ∧
                Config.Sorted names ∧
                  loadConfig system path =
                    .error (.reported (.noConfig (.unknownFields names) path)) := by
  intro claimed
  -- All that is evaluated of the value is that it has a key which is too long.
  have long : (Yaml.read longKeyText).toOption.any hasLongKey = true := by
    decide +kernel
  have found := bytes_configTree (Text.encodeUtf8 longKeyText)
  have holds : HoldsText _ longKeyText := holdsText_encodeUtf8 (by decide +kernel)
  cases read : Yaml.read longKeyText with
  | error fault =>
      rw [read] at long
      cases long
  | ok value =>
      rw [read] at long
      have long : hasLongKey value = true := long
      cases value with
      | mapping entries =>
          have unknown : Config.unknownKeys entries ≠ [] := by
            intro known
            rw [hasLongKey_of_known known] at long
            cases long
          obtain ⟨names, -, -, reported⟩ := claimed _ _ _ _ _ found holds read unknown
          rw [loadConfig_eq found holds read, if_pos long] at reported
          cases reported
      | _ => cases long

end Storage

end Delimit
