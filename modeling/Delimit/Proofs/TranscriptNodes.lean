import Delimit.Proofs.TranscriptTokens

/-!
# The nodes of a written transcript

The tokens of a transcript form a mapping whose texts and numbers are scalars and whose
units are the items of a sequence.  Building a node takes fuel only for the nesting and
for the entries before it, far less than the tokens give.
-/

namespace Delimit.Yaml.Node

/-! ## Building scalars and collections -/

section

variable
    (handles : Handles)
    {depth : Nat}
    (shallow : depth < nestingLimit)
    {rest : List Token}
    {anchors : List (List Char)}

include shallow

theorem build_scalar
    (place : Place)
    (plain : Bool)
    (text : List Char)
    (fuel : Nat) :
    build handles place depth (fuel + 1) ⟨.scalar plain text :: rest, anchors⟩ =
      .ok (.scalar {} plain text, ⟨rest, anchors⟩) := by
  have deep : ¬ nestingLimit ≤ depth := Nat.not_le.mpr shallow
  rw [build]
  simp [Building.peek?, Building.anchorAndTag, Building.anchor?, Building.tag?,
    Building.requireToken, Building.register, Building.isAt, Building.drop, bind, Except.bind,
    pure, Except.pure, deep]

theorem build_blockMapping
    {place : Place}
    (block : place.block = true)
    {fuel : Nat}
    {entries : List (Node × Node)}
    {final : Building}
    (inside : buildBlockEntries handles (depth + 1) fuel ⟨rest, anchors⟩ = .ok (entries, final)) :
    build handles place depth (fuel + 1) ⟨.blockMappingStart :: rest, anchors⟩ =
      .ok (.mapping {} entries, final) := by
  have deep : ¬ nestingLimit ≤ depth := Nat.not_le.mpr shallow
  rw [build]
  simp [Building.peek?, Building.anchorAndTag, Building.anchor?, Building.tag?,
    Building.requireToken, Building.register, Building.isAt, Building.drop, bind, Except.bind,
    pure, Except.pure, deep, block, inside]

theorem build_indentless
    {place : Place}
    (indentless : place.indentless = true)
    {fuel : Nat}
    {items : List Node}
    {final : Building}
    (inside : buildIndentless handles (depth + 1) fuel ⟨.blockEntry :: rest, anchors⟩ =
      .ok (items, final)) :
    build handles place depth (fuel + 1) ⟨.blockEntry :: rest, anchors⟩ =
      .ok (.sequence {} items, final) := by
  have deep : ¬ nestingLimit ≤ depth := Nat.not_le.mpr shallow
  rw [build]
  simp [Building.peek?, Building.anchorAndTag, Building.anchor?, Building.tag?,
    Building.requireToken, Building.register, Building.isAt, bind, Except.bind, pure,
    Except.pure, deep, indentless, inside]

theorem build_emptySequence
    (place : Place)
    (fuel : Nat) :
    build handles place depth (fuel + 2)
        ⟨.flowSequenceStart :: .flowSequenceEnd :: rest, anchors⟩ =
      .ok (.sequence {} [], ⟨rest, anchors⟩) := by
  have deep : ¬ nestingLimit ≤ depth := Nat.not_le.mpr shallow
  have closed : Building.isAt ⟨.flowSequenceEnd :: rest, anchors⟩ [.flowSequenceEnd] = true := rfl
  have none : buildFlowItems handles (depth + 1) true (fuel + 1)
      ⟨.flowSequenceEnd :: rest, anchors⟩ = .ok ([], ⟨rest, anchors⟩) := by
    rw [buildFlowItems, if_pos closed]
    rfl
  rw [build]
  simp [Building.peek?, Building.anchorAndTag, Building.anchor?, Building.tag?,
    Building.requireToken, Building.register, Building.isAt, Building.drop, bind, Except.bind,
    pure, Except.pure, deep, none]

/-- An entry of a block mapping is a key, which is a plain scalar, and the node behind it. -/
theorem buildBlockEntries_cons
    {fuel : Nat}
    (name : List Char)
    {node : Node}
    {later final : Building}
    {entries : List (Node × Node)}
    (present : Building.isAt ⟨rest, anchors⟩ [.key, .value, .blockEnd] = false)
    (value : build handles ⟨true, true⟩ depth fuel ⟨rest, anchors⟩ = .ok (node, later))
    (further : buildBlockEntries handles depth (fuel + 2) later = .ok (entries, final)) :
    buildBlockEntries handles depth (fuel + 3)
        ⟨.key :: .scalar true name :: .value :: rest, anchors⟩ =
      .ok ((.scalar {} true name, node) :: entries, final) := by
  have key : buildUnless handles ⟨true, true⟩ depth [.key, .value, .blockEnd] (fuel + 2)
      ⟨.scalar true name :: .value :: rest, anchors⟩ =
        .ok (.scalar {} true name, ⟨.value :: rest, anchors⟩) := by
    rw [buildUnless, build_scalar handles shallow]
    simp [Building.isAt, Building.peek?]
  have behind : buildValue handles ⟨true, true⟩ depth [.key, .value, .blockEnd] (fuel + 2)
      ⟨.value :: rest, anchors⟩ = .ok (node, later) := by
    have marked : Building.isAt ⟨.value :: rest, anchors⟩ [.value] = true := rfl
    rw [buildValue, if_pos marked]
    change buildUnless _ _ _ _ (fuel + 1) ⟨rest, anchors⟩ = _
    rw [buildUnless, if_neg (by simp [present]), value]
  rw [buildBlockEntries]
  simp only [Building.peek?, List.head?_cons, Building.drop, List.tail_cons, bind, Except.bind,
    key, behind, further, pure, Except.pure]

end

end Delimit.Yaml.Node

namespace Delimit.Transcript

open Yaml
open Yaml.Node (Handles build buildUnless buildBlockEntries buildIndentless nestingLimit)

def textEntry
    (name : String)
    (text : List Char) :
    Node × Node :=
  (.scalar {} true name.toList,
    .scalar {} (Style.ofText text == .plain) (Written.readBack text))

def numberEntry
    (name : String)
    (number : Nat) :
    Node × Node :=
  (.scalar {} true name.toList, .scalar {} true (Nat.toDigits 10 number))

def unitNode
    (unit : UnitRecord) :
    Node :=
  .mapping {}
    [ numberEntry "index" unit.index, numberEntry "first-line" unit.firstLine,
      numberEntry "last-line" unit.lastLine, textEntry "status" unit.status.label.toList,
      textEntry "text" unit.text ]

def node
    (transcript : Transcript) :
    Node :=
  .mapping {}
    [ textEntry "source" transcript.source,
      (.scalar {} true "units".toList, .sequence {} (transcript.units.map unitNode)) ]

section

variable
    (handles : Handles)
    {depth : Nat}
    (shallow : depth < nestingLimit)
    {rest : List Yaml.Token}
    {anchors : List (List Char)}
    {entries : List (Node × Node)}
    {final : Node.Building}
    {fuel : Nat}

include shallow

theorem buildBlockEntries_text
    (name : String)
    (text : List Char)
    (further : buildBlockEntries handles depth (fuel + 3) ⟨rest, anchors⟩ =
      .ok (entries, final)) :
    buildBlockEntries handles depth (fuel + 4) ⟨textTokens name text ++ rest, anchors⟩ =
      .ok (textEntry name text :: entries, final) :=
  Node.buildBlockEntries_cons handles shallow name.toList rfl
    (Node.build_scalar handles shallow _ _ _ fuel) further

theorem buildBlockEntries_number
    (name : String)
    (number : Nat)
    (further : buildBlockEntries handles depth (fuel + 3) ⟨rest, anchors⟩ =
      .ok (entries, final)) :
    buildBlockEntries handles depth (fuel + 4) ⟨numberTokens name number ++ rest, anchors⟩ =
      .ok (numberEntry name number :: entries, final) :=
  Node.buildBlockEntries_cons handles shallow name.toList rfl
    (Node.build_scalar handles shallow _ _ _ fuel) further

end

section

variable
    (handles : Handles)
    {depth : Nat}
    (shallow : depth + 2 < nestingLimit)
    {rest : List Yaml.Token}
    {anchors : List (List Char)}

include shallow

theorem build_unit
    (unit : UnitRecord)
    (fuel : Nat) :
    build handles ⟨true, false⟩ depth (fuel + 9)
        ⟨.blockMappingStart :: (fieldTokens unit ++ .blockEnd :: rest), anchors⟩ =
      .ok (unitNode unit, ⟨rest, anchors⟩) := by
  have inside : depth + 1 < nestingLimit := Nat.lt_of_succ_lt shallow
  refine Node.build_blockMapping handles (Nat.lt_of_succ_lt inside) rfl ?_
  simp only [fieldTokens, List.append_assoc]
  refine buildBlockEntries_number handles inside _ _ ?_
  refine buildBlockEntries_number handles inside _ _ ?_
  refine buildBlockEntries_number handles inside _ _ ?_
  refine buildBlockEntries_text handles inside _ _ ?_
  refine buildBlockEntries_text handles inside _ _ ?_
  rw [buildBlockEntries]
  rfl

/-- The units are the items of a sequence that ends with the mapping around it. -/
theorem buildIndentless_units
    (units : List UnitRecord)
    {fuel : Nat}
    (enough : units.length + 11 ≤ fuel) :
    buildIndentless handles depth fuel
        ⟨units.flatMap unitTokens ++ .blockEnd :: rest, anchors⟩ =
      .ok (units.map unitNode, ⟨.blockEnd :: rest, anchors⟩) := by
  induction units generalizing fuel with
  | nil =>
      obtain ⟨fuel, rfl⟩ : ∃ left, fuel = left + 1 := ⟨fuel - 1, by omega⟩
      rw [buildIndentless]
      rfl
  | cons unit units induction =>
      obtain ⟨fuel, rfl⟩ : ∃ left, fuel = left + 11 := ⟨fuel - 11, by omega⟩
      rw [List.length_cons] at enough
      have item : buildUnless handles ⟨true, false⟩ depth [.blockEntry, .key, .value, .blockEnd]
          (fuel + 10)
          ⟨.blockMappingStart :: (fieldTokens unit ++
            .blockEnd :: (units.flatMap unitTokens ++ .blockEnd :: rest)), anchors⟩ =
          .ok (unitNode unit, ⟨units.flatMap unitTokens ++ .blockEnd :: rest, anchors⟩) := by
        have present : Node.Building.isAt
            ⟨.blockMappingStart :: (fieldTokens unit ++
              .blockEnd :: (units.flatMap unitTokens ++ .blockEnd :: rest)), anchors⟩
            [.blockEntry, .key, .value, .blockEnd] = false := rfl
        rw [buildUnless, if_neg (by simp [present]), build_unit handles shallow]
      have others := @induction (fuel + 10) (by omega)
      have split : (unit :: units).flatMap unitTokens ++ .blockEnd :: rest =
          .blockEntry :: .blockMappingStart :: (fieldTokens unit ++
            .blockEnd :: (units.flatMap unitTokens ++ .blockEnd :: rest)) := by
        simp [unitTokens]
      rw [split, buildIndentless]
      simp only [Node.Building.peek?, List.head?_cons, Node.Building.drop, List.tail_cons, bind,
        Except.bind, item, others, pure, Except.pure, List.map_cons]

end

/-- The sequence of units, which is written in brackets if it is empty. -/
theorem build_units
    (handles : Handles)
    {depth : Nat}
    (shallow : depth + 3 < nestingLimit)
    {rest : List Yaml.Token}
    {anchors : List (List Char)}
    (units : List UnitRecord)
    {fuel : Nat}
    (enough : units.length + 12 ≤ fuel) :
    build handles ⟨true, true⟩ depth fuel ⟨unitsTokens units ++ .blockEnd :: rest, anchors⟩ =
      .ok (.sequence {} (units.map unitNode), ⟨.blockEnd :: rest, anchors⟩) := by
  have here : depth < nestingLimit := by omega
  obtain ⟨fuel, rfl⟩ : ∃ left, fuel = left + 2 := ⟨fuel - 2, by omega⟩
  cases units with
  | nil => exact Node.build_emptySequence handles here ⟨true, true⟩ fuel
  | cons unit units =>
      have inside : depth + 1 + 2 < nestingLimit := by omega
      exact Node.build_indentless handles here rfl
        (buildIndentless_units handles inside (unit :: units) (by omega))

theorem length_flatMap_unitTokens
    (units : List UnitRecord) :
    units.length ≤ (units.flatMap unitTokens).length := by
  induction units with
  | nil => exact Nat.le_refl _
  | cons unit units induction =>
      rw [List.flatMap_cons, List.length_append, List.length_cons, unitTokens, List.cons_append,
        List.length_cons]
      omega

/-- The tokens of a transcript form its node. -/
theorem ofTokens?_tokens
    (transcript : Transcript) :
    Node.ofTokens? transcript.tokens = .ok (some transcript.node) := by
  have units := length_flatMap_unitTokens transcript.units
  have split : transcript.tokens =
      .blockMappingStart :: (textTokens "source" transcript.source ++
        .key :: .scalar true "units".toList :: .value ::
          (unitsTokens transcript.units ++ [.blockEnd, .textEnd])) := by
    simp only [tokens, List.append_assoc, List.cons_append, List.nil_append]
  have enough : transcript.units.length + 17 ≤ Node.fuelFor transcript.tokens := by
    have listed : transcript.units.length ≤ (unitsTokens transcript.units).length := by
      unfold unitsTokens
      split
      · rename_i empty
        rw [List.isEmpty_iff.mp empty]
        exact Nat.zero_le _
      · exact units
    rw [Node.fuelFor, split]
    simp only [textTokens, List.length_cons, List.length_append, List.length_nil]
    omega
  obtain ⟨fuel, more⟩ : ∃ left, Node.fuelFor transcript.tokens = left + 5 :=
    ⟨Node.fuelFor transcript.tokens - 5, by omega⟩
  have built : build Node.commonHandles ⟨true, false⟩ 0 (fuel + 5) ⟨transcript.tokens, []⟩ =
      .ok (transcript.node, ⟨[.textEnd], []⟩) := by
    have shallow : 1 < nestingLimit := by decide
    rw [split]
    refine Node.build_blockMapping _ (by decide) rfl ?_
    refine buildBlockEntries_text _ shallow _ _ ?_
    refine Node.buildBlockEntries_cons _ shallow _ ?_
      (build_units _ (by decide) transcript.units (by omega)) ?_
    · cases transcript.units <;> rfl
    · rw [buildBlockEntries]
      rfl
  have bare : Node.ofTokens? transcript.tokens =
      (Node.buildDocument Node.commonHandles transcript.tokens).map some := by
    rw [split]
    rfl
  rw [bare, Node.buildDocument, more, built]
  rfl

end Delimit.Transcript
