import Delimit.Config
import Delimit.Proofs.MappingKeys
import Mathlib.Tactic.Lift

/-!
# The schema of configurations

A value is a configuration if it is nothing, or a mapping whose keys all name fields and
whose values are of the sorts that the fields take.  A field then has the value that it
is given, or else its default.  Of the faults that a mapping may have at once, unknown
keys come first, all of them together and in order; then comes the first field with a
value of the wrong sort, in the order of the fields.  Nothing depends on the order of the
entries.
-/

namespace Delimit

open Yaml (Value Scalar Entries)

namespace Config

/-! ## Fields -/

namespace Field

/-- The key that a field is given by. -/
def key
    (field : Field) :
    Scalar :=
  .text field.name.toList

/-- Whether a value is of the sort that a field takes. -/
def takes : Field → Value → Bool
  | commentBracketParity, .scalar (.bool _) => true
  | continueUnterminatedLiterals, .scalar (.bool _) => true
  | prompt, .scalar (.text _) => true
  | continuationPrompt, .scalar (.text _) => true
  | indentWidth, .scalar (.int width) => 0 ≤ width
  | _, _ => false

/-- The value of a field in a configuration. -/
def valueOf : Field → Config → Value
  | commentBracketParity, config => .scalar (.bool config.policy.commentBracketParity)
  | continueUnterminatedLiterals, config =>
      .scalar (.bool config.policy.continueUnterminatedLiterals)
  | prompt, config => .text config.prompt
  | continuationPrompt, config => .text config.continuationPrompt
  | indentWidth, config => .int config.indentWidth

/-- Whether a field is given a value that it does not take. -/
def misfits
    (entries : Entries)
    (field : Field) :
    Bool :=
  entries.any fun entry => entry.1 == field.key && !field.takes entry.2

theorem mem_all
    (field : Field) :
    field ∈ all := by
  cases field <;> decide

theorem key_injective :
    Function.Injective key := by
  intro first second
  cases first <;> cases second <;> decide

theorem misfits_eq_false_iff
    {entries : Entries}
    {field : Field} :
    field.misfits entries = false ↔
      ∀ entry ∈ entries, entry.1 = field.key → field.takes entry.2 = true := by
  simp [misfits]

end Field

/-- A configuration is settled by the values of its fields. -/
theorem ext_valueOf
    {first second : Config}
    (same : ∀ field : Field, field.valueOf first = field.valueOf second) :
    first = second := by
  have parity := same .commentBracketParity
  have literals := same .continueUnterminatedLiterals
  have prompt := same .prompt
  have continuation := same .continuationPrompt
  have width := same .indentWidth
  obtain ⟨⟨_, _⟩, _, _, _⟩ := first
  obtain ⟨⟨_, _⟩, _, _, _⟩ := second
  simp only [Field.valueOf, Value.text, Value.int, Value.scalar.injEq, Scalar.bool.injEq,
    Scalar.text.injEq, Scalar.int.injEq, Int.natCast_inj] at *
  simp [parity, literals, prompt, continuation, width]

/-! ## Unknown keys -/

theorem mem_keys_iff
    {key : Scalar} :
    key ∈ Field.all.map Field.key ↔ ∃ field : Field, key = field.key := by
  simp only [List.mem_map, Field.mem_all, true_and, eq_comm]

theorem isKnown_iff
    {key : Scalar} :
    isKnown key = true ↔ key ∈ Field.all.map Field.key := by
  cases key with
  | text name => simp only [isKnown, List.any_eq_true, beq_iff_eq, List.mem_map, Field.key,
      Scalar.text.injEq]
  | _ => simp only [isKnown, mem_keys_iff, Field.key, Bool.false_eq_true, reduceCtorEq,
      exists_false]

/-- The keys of a mapping that belong to no field. -/
def unknownKeys
    (entries : Entries) :
    List Scalar :=
  (entries.map Prod.fst).filter fun key => key ∉ Field.all.map Field.key

theorem unknownNames_eq
    (entries : Entries) :
    unknownNames entries = ((unknownKeys entries).map Scalar.shown).mergeSort comesFirst := by
  have same : (fun key => decide (key ∉ Field.all.map Field.key)) = fun key => !isKnown key := by
    funext key
    rw [Bool.eq_iff_iff, decide_eq_true_iff, Bool.not_eq_true', ← Bool.not_eq_true, isKnown_iff]
  rw [unknownNames, unknownKeys, same]

theorem comesFirst_iff
    {first second : List Char} :
    comesFirst first second = true ↔ ¬ second < first := by
  rw [comesFirst, Bool.not_eq_true', decide_eq_false_iff_not]

/-- No text comes before an earlier one. -/
def Sorted
    (texts : List (List Char)) :
    Prop :=
  texts.Pairwise fun earlier later => ¬ later < earlier

theorem sorted_unknownNames
    (entries : Entries) :
    Sorted (unknownNames entries) := by
  rw [unknownNames_eq]
  refine (List.pairwise_mergeSort ?_ ?_ _).imp comesFirst_iff.mp
  · intro first second third
    simp only [comesFirst_iff]
    exact List.le_trans
  · intro first second
    rw [Bool.or_eq_true, comesFirst_iff, comesFirst_iff]
    exact List.le_total first second

/-- The names in a report are settled by the unknown keys, in whatever order these are. -/
theorem unknownNames_eq_iff
    {entries : Entries}
    {names : List (List Char)} :
    unknownNames entries = names ↔
      names.Perm ((unknownKeys entries).map Scalar.shown) ∧ Sorted names := by
  have perm : (unknownNames entries).Perm ((unknownKeys entries).map Scalar.shown) := by
    rw [unknownNames_eq]
    exact List.mergeSort_perm _ _
  constructor
  · rintro rfl
    exact ⟨perm, sorted_unknownNames entries⟩
  · rintro ⟨others, sorted⟩
    refine List.Perm.eq_of_pairwise (fun _ _ _ _ => List.le_antisymm)
      (sorted_unknownNames entries) sorted ?_
    exact perm.trans others.symm

theorem unknownNames_eq_nil_iff
    {entries : Entries} :
    unknownNames entries = [] ↔ unknownKeys entries = [] := by
  rw [unknownNames_eq_iff]
  simp [Sorted]

/-! ## The words for faults -/

/-- A text that is joined with others is a part of the joined text. -/
theorem infix_intercalate
    {separator text : List Char}
    {texts : List (List Char)}
    (member : text ∈ texts) :
    text <:+: separator.intercalate texts := by
  induction texts with
  | nil => cases member
  | cons first texts induction =>
      cases texts with
      | nil =>
          obtain rfl := List.mem_singleton.mp member
          simp
      | cons second texts =>
          rw [List.intercalate_cons_cons]
          rcases List.mem_cons.mp member with rfl | later
          · exact ((List.prefix_append text separator).trans (List.prefix_append _ _)).isInfix
          · exact (induction later).trans (List.suffix_append _ _).isInfix

section

variable
    {text : List Char}
    {first second : String}

theorem infix_toList_ofList
    (text : List Char) :
    text <:+: (String.ofList text).toList := by
  simp

theorem infix_toList_append_left
    (inside : text <:+: first.toList) :
    text <:+: (first ++ second).toList := by
  rw [String.toList_append]
  exact inside.trans (List.prefix_append _ _).isInfix

theorem infix_toList_append_right
    (inside : text <:+: second.toList) :
    text <:+: (first ++ second).toList := by
  rw [String.toList_append]
  exact inside.trans (List.suffix_append _ _).isInfix

theorem infix_toList_intercalate
    {separator : String}
    {texts : List (List Char)}
    (member : text ∈ texts) :
    text <:+: (separator.intercalate (texts.map String.ofList)).toList := by
  have same : String.toList ∘ String.ofList = id := funext fun _ => String.toList_ofList
  rw [String.toList_intercalate, List.map_map, same, List.map_id]
  exact infix_intercalate member

end

namespace Fault

/-- The texts that a fault names: the unknown keys, or the field and the sort that it takes. -/
def named : Fault → List (List Char)
  | notMapping => []
  | unknownFields names => names
  | wrongSort field => [field.name.toList, field.expectation.toList]

/-- The words for a fault hold every text that it names. -/
theorem infix_words
    {fault : Fault}
    {text : List Char}
    (names : text ∈ fault.named) :
    text <:+: fault.words.toList := by
  cases fault with
  | notMapping => cases names
  | unknownFields keys => exact infix_toList_append_right (infix_toList_intercalate names)
  | wrongSort field =>
      simp only [named, List.mem_cons, List.not_mem_nil, or_false] at names
      rcases names with rfl | rfl
      · exact infix_toList_append_left (infix_toList_append_left
          (infix_toList_append_right List.infix_rfl))
      · exact infix_toList_append_right List.infix_rfl

end Fault

/-! ## Values of fields -/

section

variable
    {entries : Entries}
    (distinct : entries.Distinct)

include distinct

theorem misfits_eq
    (field : Field) :
    field.misfits entries =
      (entries.getText? field.name).any fun value => !field.takes value := by
  rw [Bool.eq_iff_iff, Option.any_eq_true, Field.misfits, List.any_eq_true]
  simp only [distinct.getText?_eq_some_iff, Bool.and_eq_true, beq_iff_eq, Prod.exists]
  constructor
  · rintro ⟨key, value, member, rfl, misfit⟩
    exact ⟨value, member, misfit⟩
  · rintro ⟨value, member, misfit⟩
    exact ⟨field.key, value, member, rfl, misfit⟩

theorem readField_eq
    {α : Type}
    {field : Field}
    (default : α)
    {reader : Value → Option α}
    (sorts : ∀ value, (reader value).isSome = field.takes value) :
    readField entries field default reader =
      if field.misfits entries then
        .error (.wrongSort field)
      else
        .ok (((entries.getText? field.name).bind reader).getD default) := by
  rw [readField, misfits_eq distinct]
  cases entries.getText? field.name with
  | none => rfl
  | some value =>
      have sort := sorts value
      cases result : reader value with
      | none =>
          rw [result] at sort
          simp [← sort, result]
      | some _ =>
          rw [result] at sort
          simp [← sort, result]

end

theorem isSome_switch? :
    (∀ value, (switch? value).isSome = Field.commentBracketParity.takes value) ∧
      ∀ value, (switch? value).isSome = Field.continueUnterminatedLiterals.takes value := by
  constructor <;> intro value <;> unfold switch? <;> split <;> simp_all [Field.takes]

theorem isSome_text? :
    (∀ value, (text? value).isSome = Field.prompt.takes value) ∧
      ∀ value, (text? value).isSome = Field.continuationPrompt.takes value := by
  constructor <;> intro value <;> unfold text? <;> split <;> simp_all [Field.takes]

theorem isSome_width?
    (value : Value) :
    (width? value).isSome = Field.indentWidth.takes value := by
  unfold width?
  split
  · simp [Field.takes, apply_ite]
  · simp_all [Field.takes]

/-- The configuration with the values that fields are given, or else their defaults. -/
def settled
    (entries : Entries) :
    Config where
  policy := {
    commentBracketParity :=
      ((entries.getText? Field.commentBracketParity.name).bind switch?).getD false
    continueUnterminatedLiterals :=
      ((entries.getText? Field.continueUnterminatedLiterals.name).bind switch?).getD true }
  prompt := ((entries.getText? Field.prompt.name).bind text?).getD ({} : Config).prompt
  continuationPrompt :=
    ((entries.getText? Field.continuationPrompt.name).bind text?).getD
      ({} : Config).continuationPrompt
  indentWidth :=
    ((entries.getText? Field.indentWidth.name).bind width?).getD ({} : Config).indentWidth

theorem ofEntries_eq
    {entries : Entries}
    (distinct : entries.Distinct) :
    ofEntries entries =
      if unknownNames entries = [] then
        (Field.all.find? (Field.misfits entries)).elim (.ok (settled entries))
          fun field => .error (.wrongSort field)
      else
        .error (.unknownFields (unknownNames entries)) := by
  have parity := readField_eq distinct false isSome_switch?.1
  have literals := readField_eq distinct true isSome_switch?.2
  have prompt := readField_eq distinct ({} : Config).prompt isSome_text?.1
  have continuation := readField_eq distinct ({} : Config).continuationPrompt isSome_text?.2
  have width := readField_eq distinct ({} : Config).indentWidth isSome_width?
  unfold ofEntries
  rw [parity, literals, prompt, continuation, width, Field.all]
  cases unknownNames entries with
  | cons name names => rfl
  | nil =>
      -- Fields are read in their order, so the first one that misfits ends the reading.
      rw [List.find?_cons, List.find?_cons, List.find?_cons, List.find?_cons, List.find?_cons]
      cases Field.commentBracketParity.misfits entries with
      | true => rfl
      | false =>
      cases Field.continueUnterminatedLiterals.misfits entries with
      | true => rfl
      | false =>
      cases Field.prompt.misfits entries with
      | true => rfl
      | false =>
      cases Field.continuationPrompt.misfits entries with
      | true => rfl
      | false =>
      cases Field.indentWidth.misfits entries with
      | true => rfl
      | false => rfl

/-- What is read of a value that is taken stands for the value. -/
theorem embed_getD
    {α : Type}
    {embed : α → Value}
    {reader : Value → Option α}
    (stands : ∀ value result, reader value = some result → embed result = value)
    {given : Option Value}
    (taken : ∀ value, given = some value → (reader value).isSome = true)
    (default : α) :
    embed ((given.bind reader).getD default) = given.getD (embed default) := by
  cases given with
  | none => rfl
  | some value =>
      obtain ⟨result, reads⟩ := Option.isSome_iff_exists.mp (taken value rfl)
      rw [Option.bind_some, reads]
      exact stands value result reads

theorem stands_switch?
    (value : Value)
    (result : Bool)
    (reads : switch? value = some result) :
    .scalar (.bool result) = value := by
  unfold switch? at reads
  split at reads
  · cases reads
    rfl
  · cases reads

theorem stands_text?
    (value : Value)
    (result : List Char)
    (reads : text? value = some result) :
    .text result = value := by
  unfold text? at reads
  split at reads
  · cases reads
    rfl
  · cases reads

theorem stands_width?
    (value : Value)
    (result : Nat)
    (reads : width? value = some result) :
    .int result = value := by
  unfold width? at reads
  split at reads
  · split at reads
    · rename_i enough
      cases reads
      rw [Int.toNat_of_nonneg enough, Value.int]
    · cases reads
  · cases reads

/-- A field that is given no value it does not take has the value that it is given. -/
theorem valueOf_settled
    {entries : Entries}
    (distinct : entries.Distinct)
    {field : Field}
    (fits : field.misfits entries = false) :
    field.valueOf (settled entries) =
      (entries.getText? field.name).getD (field.valueOf {}) := by
  have taken : ∀ value, entries.getText? field.name = some value →
      field.takes value = true := by
    rw [misfits_eq distinct] at fits
    intro value found
    rw [found] at fits
    simpa using fits
  cases field with
  | commentBracketParity =>
      simp only [← isSome_switch?.1] at taken
      exact embed_getD stands_switch? taken _
  | continueUnterminatedLiterals =>
      simp only [← isSome_switch?.2] at taken
      exact embed_getD stands_switch? taken _
  | prompt =>
      simp only [← isSome_text?.1] at taken
      exact embed_getD stands_text? taken _
  | continuationPrompt =>
      simp only [← isSome_text?.2] at taken
      exact embed_getD stands_text? taken _
  | indentWidth =>
      simp only [← isSome_width?] at taken
      exact embed_getD stands_width? taken _

/-! ## Outcomes -/

/-- The entries that a value gives for a configuration. -/
def entriesOf : Value → Entries
  | .mapping entries => entries
  | _ => []

/-- A value is nothing, or a mapping of fields to values that they take. -/
def Fits
    (value : Value) :
    Prop :=
  value = .null ∨ ∃ entries, value = .mapping entries ∧
    ∀ entry ∈ entries, ∃ field : Field, entry.1 = field.key ∧ field.takes entry.2 = true

/-- What a value is taken for, or refused for. -/
inductive Outcome : Value → Except Fault Config → Prop where
  /-- Every field has the value that it is given, or else its default. -/
  | accepted {value : Value} {config : Config}
      (fits : Fits value)
      (given : ∀ (field : Field) (given : Value),
        (field.key, given) ∈ entriesOf value → field.valueOf config = given)
      (default : ∀ field : Field,
        (∀ given, (field.key, given) ∉ entriesOf value) →
          field.valueOf config = field.valueOf {}) :
      Outcome value (.ok config)
  /-- Every unknown key is named, whatever the values are. -/
  | unknownFields {entries : Entries} {names : List (List Char)}
      (unknown : unknownKeys entries ≠ [])
      (each : names.Perm ((unknownKeys entries).map Scalar.shown))
      (sorted : Sorted names) :
      Outcome (.mapping entries) (.error (.unknownFields names))
  /-- The first field with a value that it does not take is named. -/
  | wrongSort {entries : Entries} {field : Field}
      (known : unknownKeys entries = [])
      (first : Field.all.find? (Field.misfits entries) = some field) :
      Outcome (.mapping entries) (.error (.wrongSort field))
  | notMapping {value : Value}
      (something : value ≠ .null)
      (other : ∀ entries, value ≠ .mapping entries) :
      Outcome value (.error .notMapping)

theorem unknownKeys_eq_nil_iff
    {entries : Entries} :
    unknownKeys entries = [] ↔ ∀ entry ∈ entries, ∃ field : Field, entry.1 = field.key := by
  simp [unknownKeys, List.filter_eq_nil_iff, mem_keys_iff]

/-- A mapping fits if no key is unknown and no field is given a value it does not take. -/
theorem fits_mapping_iff
    {entries : Entries} :
    Fits (.mapping entries) ↔
      unknownKeys entries = [] ∧ Field.all.find? (Field.misfits entries) = none := by
  simp only [Fits, Value.null, reduceCtorEq, Value.mapping.injEq, false_or, exists_eq_left',
    unknownKeys_eq_nil_iff, List.find?_eq_none, Field.mem_all, true_imp_iff,
    Bool.not_eq_true, Field.misfits_eq_false_iff]
  constructor
  · intro fits
    refine ⟨fun entry member => ?_, fun field entry member same => ?_⟩
    · obtain ⟨field, same, -⟩ := fits entry member
      exact ⟨field, same⟩
    · obtain ⟨other, likewise, taken⟩ := fits entry member
      rwa [Field.key_injective (same.symm.trans likewise)]
  · rintro ⟨known, taken⟩ entry member
    obtain ⟨field, same⟩ := known entry member
    exact ⟨field, same, taken field entry member same⟩

/-- The values that fields are given, and their defaults, settle a configuration. -/
theorem eq_settled_iff
    {entries : Entries}
    (distinct : entries.Distinct)
    (fit : ∀ field : Field, field.misfits entries = false)
    {config : Config} :
    settled entries = config ↔ ∀ field : Field,
      (∀ given, (field.key, given) ∈ entries → field.valueOf config = given) ∧
        ((∀ given, (field.key, given) ∉ entries) →
          field.valueOf config = field.valueOf {}) := by
  have value (field : Field) := valueOf_settled distinct (fit field)
  constructor
  · rintro rfl field
    refine ⟨fun given member => ?_, fun absent => ?_⟩
    · rw [value, distinct.getText?_eq_some_iff.mpr member, Option.getD_some]
    · have missing : entries.getText? field.name = none := by
        refine Option.eq_none_iff_forall_ne_some.mpr fun given found => ?_
        exact absent given (distinct.getText?_eq_some_iff.mp found)
      rw [value, missing, Option.getD_none]
  · intro agrees
    refine ext_valueOf fun field => ?_
    rw [value]
    cases found : entries.getText? field.name with
    | none =>
        refine ((agrees field).2 fun given member => ?_).symm
        rw [distinct.getText?_eq_some_iff.mpr member] at found
        cases found
    | some given =>
        exact ((agrees field).1 given (distinct.getText?_eq_some_iff.mp found)).symm

theorem ofEntries_eq_iff
    {entries : Entries}
    (distinct : entries.Distinct)
    (outcome : Except Fault Config) :
    ofEntries entries = outcome ↔ Outcome (.mapping entries) outcome := by
  rw [ofEntries_eq distinct]
  -- Whichever of the three cases it is, the other outcomes contradict it.
  by_cases known : unknownKeys entries = []
  · rw [if_pos (unknownNames_eq_nil_iff.mpr known)]
    cases found : Field.all.find? (Field.misfits entries) with
    | some field =>
        rw [Option.elim_some]
        constructor
        · rintro rfl
          exact .wrongSort known found
        · intro comes
          cases comes with
          | accepted fits => cases found.symm.trans (fits_mapping_iff.mp fits).2
          | unknownFields unknown => exact absurd known unknown
          | wrongSort _ first => rw [Option.some.inj (found.symm.trans first)]
          | notMapping _ other => exact absurd rfl (other entries)
    | none =>
        rw [Option.elim_none]
        have fit (field : Field) : field.misfits entries = false := by
          simpa using List.find?_eq_none.mp found field field.mem_all
        constructor
        · rintro rfl
          have agrees := (eq_settled_iff distinct fit).mp rfl
          exact .accepted (fits_mapping_iff.mpr ⟨known, found⟩)
            (fun field => (agrees field).1) (fun field => (agrees field).2)
        · intro comes
          cases comes with
          | accepted _ given default =>
              rw [(eq_settled_iff distinct fit).mpr fun field => ⟨given field, default field⟩]
          | unknownFields unknown => exact absurd known unknown
          | wrongSort _ first => cases found.symm.trans first
          | notMapping _ other => exact absurd rfl (other entries)
  · rw [if_neg (mt unknownNames_eq_nil_iff.mp known)]
    constructor
    · rintro rfl
      obtain ⟨each, sorted⟩ := unknownNames_eq_iff.mp (Eq.refl (unknownNames entries))
      exact .unknownFields known each sorted
    · intro comes
      cases comes with
      | accepted fits => exact absurd (fits_mapping_iff.mp fits).1 known
      | unknownFields _ each sorted => rw [unknownNames_eq_iff.mpr ⟨each, sorted⟩]
      | wrongSort all => exact absurd all known
      | notMapping _ other => exact absurd rfl (other entries)

theorem ofNothing_eq_iff
    (outcome : Except Fault Config) :
    .ok {} = outcome ↔ Outcome .null outcome := by
  constructor
  · rintro rfl
    exact .accepted (.inl rfl) (fun _ _ member => absurd member List.not_mem_nil)
      fun _ _ => rfl
  · intro comes
    cases comes with
    | accepted _ _ default =>
        rw [ext_valueOf fun field => default field fun _ => List.not_mem_nil]
    | notMapping something => exact absurd rfl something

/-- Reading a value comes to its only outcome. -/
theorem ofValue_eq_iff
    {value : Value}
    (distinct : (entriesOf value).Distinct)
    (outcome : Except Fault Config) :
    ofValue value = outcome ↔ Outcome value outcome := by
  by_cases mapping : ∃ entries, value = .mapping entries
  · obtain ⟨entries, rfl⟩ := mapping
    exact ofEntries_eq_iff distinct outcome
  · by_cases nothing : value = .null
    · rw [nothing]
      exact ofNothing_eq_iff outcome
    · have other := not_exists.mp mapping
      have refused : ofValue value = .error .notMapping := by
        unfold ofValue
        split
        · exact absurd rfl nothing
        · exact absurd rfl (other _)
        · rfl
      rw [refused]
      constructor
      · rintro rfl
        exact .notMapping nothing other
      · intro comes
        cases comes with
        | accepted fits =>
            obtain same | ⟨entries, same, -⟩ := fits
            · exact absurd same nothing
            · exact absurd same (other entries)
        | unknownFields => exact absurd rfl (other _)
        | wrongSort => exact absurd rfl (other _)
        | notMapping => rfl

/-- The values that fit are those that are taken for configurations. -/
theorem exists_ofValue_eq_ok_iff
    {value : Value}
    (distinct : (entriesOf value).Distinct) :
    (∃ config, ofValue value = .ok config) ↔ Fits value := by
  constructor
  · rintro ⟨config, accepted⟩
    cases (ofValue_eq_iff distinct _).mp accepted with
    | accepted fits => exact fits
  · intro fits
    obtain rfl | ⟨entries, rfl, -⟩ := id fits
    · exact ⟨{}, rfl⟩
    · obtain ⟨known, first⟩ := fits_mapping_iff.mp fits
      have taken := @ofEntries_eq entries distinct
      rw [if_pos (unknownNames_eq_nil_iff.mpr known), first, Option.elim_none] at taken
      exact ⟨settled entries, taken⟩

/-! ## The order of entries -/

section

variable
    {entries others : Entries}
    (same : entries.Perm others)

include same

theorem unknownNames_of_perm :
    unknownNames entries = unknownNames others := by
  obtain ⟨each, sorted⟩ := unknownNames_eq_iff.mp (Eq.refl (unknownNames others))
  refine unknownNames_eq_iff.mpr ⟨each.trans (List.Perm.map _ ?_), sorted⟩
  exact (same.symm.map Prod.fst).filter _

theorem ofEntries_of_perm
    (distinct : entries.Distinct)
    (likewise : others.Distinct) :
    ofEntries entries = ofEntries others := by
  have given := distinct.getText?_eq_of_perm likewise same
  have misfits : Field.misfits entries = Field.misfits others := by
    funext field
    rw [misfits_eq distinct, misfits_eq likewise, given]
  have values : settled entries = settled others := by
    simp only [settled, given]
  rw [ofEntries_eq distinct, ofEntries_eq likewise, unknownNames_of_perm same, misfits, values]

end

theorem distinct_entriesOf
    {text : List Char}
    {value : Value}
    (read : Yaml.read text = .ok value) :
    (entriesOf value).Distinct := by
  cases value with
  | mapping entries => exact Yaml.distinct_of_read read
  | _ => exact Entries.distinct_nil

end Config

end Delimit
