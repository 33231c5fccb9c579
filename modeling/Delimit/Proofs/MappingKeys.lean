import Delimit.Yaml.Document
import Mathlib.Data.List.Perm.Basic

/-!
# Keys of mappings

The mapping that a document stands for has no key twice.  So what is found under a text
is the value of the only entry with that key, and it does not matter in which order the
entries are.
-/

namespace Delimit.Yaml

/-- Only a text is the same key as a text. -/
theorem Scalar.sameKey_text_iff
    {key : Scalar}
    {text : List Char} :
    key.sameKey (.text text) = true ↔ key = .text text := by
  cases key with
  | text other => simp
  | real value =>
      simp only [Scalar.sameKey, Scalar.wholeNumber?]
      cases value.toInt? <;> simp
  | _ => simp [Scalar.sameKey, Scalar.wholeNumber?]

namespace Entries

/-- No key is the same as an earlier one. -/
def Distinct
    (entries : Entries) :
    Prop :=
  (entries.map Prod.fst).Pairwise fun earlier later => earlier.sameKey later = false

theorem distinct_nil :
    Distinct [] :=
  List.Pairwise.nil

/-- A key that is set is put behind the others, unless it is the same as one of them. -/
theorem map_fst_insert
    (key : Scalar)
    (value : Value)
    (entries : Entries) :
    (entries.insert key value).map Prod.fst =
      if (entries.map Prod.fst).any (·.sameKey key) then
        entries.map Prod.fst
      else
        entries.map Prod.fst ++ [key] := by
  induction entries with
  | nil => rfl
  | cons entry entries induction =>
      obtain ⟨other, old⟩ := entry
      rw [insert]
      cases same : other.sameKey key with
      | true => simp [same]
      | false =>
          simp only [Bool.false_eq_true, if_false, List.map_cons, List.any_cons, same,
            Bool.false_or, induction]
          split
          · rfl
          · rfl

theorem Distinct.insert
    {entries : Entries}
    (distinct : entries.Distinct)
    (key : Scalar)
    (value : Value) :
    (entries.insert key value).Distinct := by
  rw [Distinct, map_fst_insert]
  split
  · exact distinct
  · rename_i new
    rw [List.pairwise_append]
    refine ⟨distinct, List.pairwise_singleton _ _, ?_⟩
    simpa using new

theorem Distinct.insertAll
    {entries : Entries}
    (distinct : entries.Distinct)
    (further : Entries) :
    (entries.insertAll further).Distinct := by
  induction further generalizing entries with
  | nil => exact distinct
  | cons entry further induction => exact induction (distinct.insert entry.1 entry.2)

section

variable
    {entries : Entries}
    (distinct : entries.Distinct)

include distinct

/-- What is found under a text is the value of its only entry. -/
theorem Distinct.getText?_eq_some_iff
    {key : String}
    {value : Value} :
    entries.getText? key = some value ↔ (.text key.toList, value) ∈ entries := by
  -- Behind an entry with the key there is no other, in front of it nothing is found.
  induction entries with
  | nil => simp [getText?, get?]
  | cons entry entries induction =>
      obtain ⟨other, old⟩ := entry
      obtain ⟨first, later⟩ := List.pairwise_cons.mp distinct
      rw [List.mem_cons, getText?, get?]
      split
      · rename_i same
        obtain rfl := Scalar.sameKey_text_iff.mp same
        have absent : (.text key.toList, value) ∉ entries := by
          intro member
          have apart := first (.text key.toList) (List.mem_map_of_mem member)
          rw [same] at apart
          cases apart
        simp [absent, eq_comm]
      · rename_i different
        rw [Scalar.sameKey_text_iff] at different
        have rest := induction later
        rw [getText?] at rest
        simpa [eq_comm, different] using rest

/-- What is found under a text does not depend on the order of the entries. -/
theorem Distinct.getText?_eq_of_perm
    {others : Entries}
    (likewise : others.Distinct)
    (same : entries.Perm others)
    (key : String) :
    entries.getText? key = others.getText? key := by
  refine Option.ext fun value => ?_
  rw [distinct.getText?_eq_some_iff, likewise.getText?_eq_some_iff, same.mem_iff]

end

end Entries

theorem distinct_of_value
    {construction : Construction}
    {depth : Nat}
    {node : NodeId}
    {entries : Entries}
    (mapping : construction.value (depth + 1) node = .mapping entries) :
    entries.Distinct := by
  rw [Construction.value] at mapping
  split at mapping
  · cases mapping
  · cases mapping
  · cases mapping
    exact Entries.distinct_nil.insertAll _
  · cases mapping
  · cases mapping
  · cases mapping

/-- A mapping that a document stands for has no key twice. -/
theorem distinct_of_read
    {text : List Char}
    {entries : Entries}
    (mapping : read text = .ok (.mapping entries)) :
    entries.Distinct := by
  unfold read at mapping
  split at mapping
  · cases tokens : Node.ofTokens? (tokensOf text) with
    | error fault =>
        rw [tokens] at mapping
        cases mapping
    | ok node? =>
        rw [tokens] at mapping
        cases node? with
        | none => cases mapping
        | some node =>
            change Value.ofNode node = _ at mapping
            rw [Value.ofNode] at mapping
            cases made : Construction.ofGraph (.ofNode node) with
            | error fault =>
                rw [made] at mapping
                cases mapping
            | ok construction =>
                rw [made] at mapping
                exact distinct_of_value (Except.ok.inj mapping)
  · cases mapping

end Delimit.Yaml
