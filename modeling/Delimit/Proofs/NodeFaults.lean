import Delimit.Proofs.TokenFaults
import Delimit.Yaml.Node

/-!
# Faults of nodes

The building of nodes breaks down where a token is a breakdown, and where collections
are nested too deeply.  How deeply they are can be told from the tokens: each pair of
tokens around a collection counts at most for two levels, since a block mapping may
hold a sequence that is not indented, and a flow sequence a mapping of one entry,
without tokens of their own.

Whatever is built takes as many beginnings of collections from the tokens as ends.
-/

namespace Delimit.Yaml

/-- What a token adds to the number of collections that are open. -/
def Token.weight : Token → Int
  | .blockSequenceStart | .blockMappingStart | .flowSequenceStart | .flowMappingStart => 1
  | .blockEnd | .flowSequenceEnd | .flowMappingEnd => -1
  | _ => 0

namespace Node

/-- What tokens add to the number of collections that are open. -/
def weight : List Token → Int
  | [] => 0
  | token :: rest => token.weight + weight rest

/-- The greatest number of collections that tokens open at once. -/
def nesting : List Token → Int
  | [] => 0
  | token :: rest => max 0 (token.weight + nesting rest)

theorem weight_append
    (front back : List Token) :
    weight (front ++ back) = weight front + weight back := by
  induction front with
  | nil => simp [weight]
  | cons token front induction =>
      rw [List.cons_append, weight, weight, induction, Int.add_assoc]

theorem nesting_nonneg
    (tokens : List Token) :
    0 ≤ nesting tokens := by
  cases tokens with
  | nil => exact Int.le_refl 0
  | cons token rest => exact Int.le_max_left _ _

/-- What is nested at the end of tokens is nested inside what is open before it. -/
theorem weight_add_nesting_le
    (front back : List Token) :
    weight front + nesting back ≤ nesting (front ++ back) := by
  induction front with
  | nil => simp [weight]
  | cons token front induction =>
      rw [List.cons_append, weight, nesting]
      omega

/-- What the building of nodes breaks down at, inside a number of collections. -/
inductive BuildingHazard (depth : Int) (tokens : List Token) : Breakdown → Prop where
  | token {cause : Breakdown}
      (member : Token.fault (.breakdown cause) ∈ tokens) :
      BuildingHazard depth tokens cause
  | deep
      (nested : nestingLimit ≤ depth + 2 * nesting tokens) :
      BuildingHazard depth tokens .tooDeep

/-- Tokens were taken that add a number of open collections. -/
def Takes
    (count : Int)
    (before after : Building) :
    Prop :=
  ∃ front, before.tokens = front ++ after.tokens ∧ weight front = count

section

variable {before after : Building}

theorem Takes.refl
    (building : Building) :
    Takes 0 building building :=
  ⟨[], rfl, rfl⟩

theorem Takes.trans
    {first second : Int}
    {last : Building}
    (takes : Takes first before after)
    (further : Takes second after last) :
    Takes (first + second) before last := by
  rcases takes with ⟨front, split, rfl⟩
  rcases further with ⟨middle, rest, rfl⟩
  refine ⟨front ++ middle, ?_, weight_append front middle⟩
  rw [split, rest, List.append_assoc]

theorem takes_drop
    {token : Token}
    (next : before.peek? = some token) :
    Takes token.weight before before.drop := by
  rcases List.head?_eq_some_iff.mp next with ⟨rest, begins⟩
  refine ⟨[token], ?_, by simp [weight]⟩
  rw [Building.drop, begins]
  rfl

theorem Takes.hazard
    {count depth : Int}
    {cause : Breakdown}
    (takes : Takes count before after)
    (hazard : BuildingHazard (depth + 2 * count) after.tokens cause) :
    BuildingHazard depth before.tokens cause := by
  rcases takes with ⟨front, split, rfl⟩
  rw [split]
  cases hazard with
  | token member => exact .token (List.mem_append_right front member)
  | deep nested =>
      have inside := weight_add_nesting_le front after.tokens
      exact .deep (by omega)

end

/-- A building step that takes tokens which add a number of open collections. -/
def Builds
    {α : Type}
    (left : α → Building)
    (count depth : Int)
    (building : Building)
    (result : Except Fault α) :
    Prop :=
  Yields (fun value => Takes count building (left value))
    (BuildingHazard depth building.tokens) result

section

variable
    {α β : Type}
    {left : α → Building}
    {count depth : Int}
    {building : Building}

theorem builds_ok
    {value : α}
    (takes : Takes count building (left value)) :
    Builds left count depth building (.ok value) := takes

/-- The fault for a token is the one that the token is, or no breakdown. -/
theorem builds_refuse :
    Builds left count depth building (.error building.refuse) := by
  intro cause same
  unfold Building.refuse at same
  split at same
  · rename_i found
    subst same
    rcases List.head?_eq_some_iff.mp found with ⟨rest, begins⟩
    exact .token (by rw [begins]; exact List.mem_cons_self)
  · cases same

theorem Builds.deeper
    {outer : Int}
    {result : Except Fault α}
    (builds : Builds left count outer building result)
    (below : outer ≤ depth) :
    Builds left count depth building result := by
  refine Yields.mono builds (fun _ takes => takes) fun cause hazard => ?_
  cases hazard with
  | token member => exact .token member
  | deep nested => exact .deep (by omega)

/-- Behind tokens that were taken, the depth counts the collections that they left open. -/
theorem Takes.builds
    {first second inner : Int}
    {before after : Building}
    {result : Except Fault α}
    (takes : Takes first before after)
    (builds : Builds left second inner after result)
    (deeper : inner ≤ depth + 2 * first)
    (whole : first + second = count) :
    Builds left count depth before result :=
  Yields.mono (builds.deeper deeper) (fun _ further => whole ▸ takes.trans further)
    (fun _ hazard => takes.hazard hazard)

/-- Building goes on behind tokens that leave no more collections open. -/
theorem Takes.behind
    {before after : Building}
    {result : Except Fault α}
    (takes : Takes 0 before after)
    (builds : Builds left count depth after result) :
    Builds left count depth before result :=
  takes.builds builds (by omega) (Int.zero_add count)

/-- A token that neither begins nor ends a collection is taken first. -/
theorem Builds.behindToken
    {token : Token}
    {result : Except Fault α}
    (builds : Builds left count depth building.drop result)
    (next : building.peek? = some token)
    (weightless : token.weight = 0) :
    Builds left count depth building result :=
  Takes.behind (weightless ▸ takes_drop next) builds

/-- The beginning of a collection is taken first, and its end with the rest. -/
theorem Builds.behindStart
    {token : Token}
    {result : Except Fault α}
    (builds : Builds left (-1) (depth + 2) building.drop result)
    (next : building.peek? = some token)
    (start : token.weight = 1) :
    Builds left 0 depth building result :=
  (takes_drop next).builds builds (by omega) (by omega)

/-- Building goes on behind what leaves no more collections open. -/
theorem Builds.bind
    {later : β → Building}
    {result : Except Fault α}
    {next : α → Except Fault β}
    (builds : Builds left 0 depth building result)
    (further : ∀ value, Builds later count depth (left value) (next value)) :
    Builds later count depth building (result >>= next) :=
  Yields.bind builds fun value takes =>
    takes.behind (further value)

/-- What was built becomes a part of something else. -/
theorem Builds.map
    {later : β → Building}
    {result : Except Fault α}
    (builds : Builds left count depth building result)
    {make : α → β}
    (same : ∀ value, later (make value) = left value) :
    Builds later count depth building (result >>= fun value => pure (make value)) := by
  refine Yields.bind builds fun value takes => ?_
  refine yields_pure ?_
  rw [same]
  exact takes

end

/-! ## What stands before a node -/

theorem peek?_of_isAt
    {building : Building}
    {token : Token}
    (isAt : building.isAt [token] = true) :
    building.peek? = some token := by
  unfold Building.isAt at isAt
  cases next : building.peek? with
  | none =>
      rw [next] at isAt
      cases isAt
  | some found =>
      rw [next] at isAt
      simpa using isAt

/-- The comma between the parts of a flow collection is taken before all but the first. -/
theorem takes_comma
    {building : Building}
    {first : Bool}
    (separated : ¬ (!first && !building.isAt [.flowEntry]) = true) :
    Takes 0 building (if first then building else building.drop) := by
  cases first with
  | true => exact .refl building
  | false => exact takes_drop (peek?_of_isAt (by simpa using separated))

section

variable
    (depth : Int)
    (building : Building)

theorem builds_anchor? :
    Builds Prod.snd 0 depth building building.anchor? := by
  have refused :=
    @builds_refuse (Option (List Char) × Building) Prod.snd 0 depth building
  unfold Building.anchor?
  split
  · rename_i name next
    exact builds_ok (takes_drop next)
  · rename_i cause next
    rwa [Building.refuse, next] at refused
  · exact builds_ok (.refl building)

theorem builds_tag? :
    Builds Prod.snd 0 depth building building.tag? := by
  have refused := @builds_refuse (Option TagName × Building) Prod.snd 0 depth building
  unfold Building.tag?
  split
  · rename_i name next
    exact builds_ok (takes_drop next)
  · rename_i cause next
    rwa [Building.refuse, next] at refused
  · exact builds_ok (.refl building)

theorem builds_anchorAndTag :
    Builds (fun read => read.2.2) 0 depth building building.anchorAndTag := by
  refine (builds_anchor? depth building).bind ?_
  rintro ⟨_ | anchor, behind⟩
  · refine (builds_tag? depth behind).bind ?_
    rintro ⟨_ | name, further⟩
    · exact builds_ok (.refl further)
    · exact (builds_anchor? depth further).map fun _ => rfl
  · exact (builds_tag? depth behind).map fun _ => rfl

theorem builds_requireToken :
    Builds (fun _ => building) 0 depth building building.requireToken := by
  have refused := @builds_refuse Unit (fun _ => building) 0 depth building
  unfold Building.requireToken
  split
  · rename_i cause next
    rwa [Building.refuse, next] at refused
  · exact builds_ok (.refl building)

theorem register_yields
    (anchor? : Option (List Char)) :
    Yields (fun registered => registered.tokens = building.tokens) (fun _ => False)
      (building.register anchor?) := by
  unfold Building.register
  split
  · exact yields_ok rfl
  · split
    · exact yields_error rfl
    · exact yields_ok rfl

end

theorem unbroken_fullTag
    (handles : Handles)
    (name : TagName) :
    Unbroken (fullTag handles name) := by
  unfold fullTag
  split
  · exact yields_ok trivial
  · split
    · exact yields_ok trivial
    · exact yields_error rfl

theorem unbroken_fullTags
    (handles : Handles)
    (name? : Option TagName) :
    Unbroken (name?.mapM (fullTag handles)) := by
  cases name? with
  | none => exact yields_ok trivial
  | some name => exact (unbroken_fullTag handles name).bind fun _ => yields_ok trivial

/-! ## Nodes and collections -/

/-- The level that a node may add without a token of its own. -/
def Place.extra
    (place : Place) :
    Int :=
  if place.indentless then 1 else 0

/-- With some fuel, all building of nodes is bounded by the nesting of the tokens. -/
structure BuildsAll
    (handles : Handles)
    (fuel : Nat) :
    Prop where
  node : ∀ (place : Place) (depth : Nat) (building : Building),
    Builds Prod.snd 0 (depth + place.extra) building
      (build handles place depth fuel building)
  orEmpty : ∀ (place : Place) (depth : Nat) (stops : List Token) (building : Building),
    Builds Prod.snd 0 (depth + place.extra) building
      (buildUnless handles place depth stops fuel building)
  value : ∀ (place : Place) (depth : Nat) (stops : List Token) (building : Building),
    Builds Prod.snd 0 (depth + place.extra) building
      (buildValue handles place depth stops fuel building)
  blockItems : ∀ (depth : Nat) (building : Building),
    Builds Prod.snd (-1) (depth + 1) building
      (buildBlockItems handles depth fuel building)
  indentless : ∀ (depth : Nat) (building : Building),
    Builds Prod.snd 0 depth building (buildIndentless handles depth fuel building)
  blockEntries : ∀ (depth : Nat) (building : Building),
    Builds Prod.snd (-1) (depth + 1) building
      (buildBlockEntries handles depth fuel building)
  flowItems : ∀ (depth : Nat) (first : Bool) (building : Building),
    Builds Prod.snd (-1) (depth + 1) building
      (buildFlowItems handles depth first fuel building)
  flowEntries : ∀ (depth : Nat) (first : Bool) (building : Building),
    Builds Prod.snd (-1) (depth + 1) building
      (buildFlowEntries handles depth first fuel building)

theorem buildsAll_zero
    (handles : Handles) :
    BuildsAll handles 0 where
  node _ _ _ := builds_refuse
  orEmpty _ _ _ _ := builds_refuse
  value _ _ _ _ := builds_refuse
  blockItems _ _ := builds_refuse
  indentless _ _ := builds_refuse
  blockEntries _ _ := builds_refuse
  flowItems _ _ _ := builds_refuse
  flowEntries _ _ _ := builds_refuse

section

variable
    {handles : Handles}
    {fuel : Nat}
    (builds : BuildsAll handles fuel)
    (depth : Nat)
    (building : Building)

include builds

theorem BuildsAll.node_succ
    (place : Place) :
    Builds Prod.snd 0 (depth + place.extra) building
      (build handles place depth (fuel + 1) building) := by
  have extra : 0 ≤ place.extra := by
    unfold Place.extra
    split <;> decide
  unfold build
  split
  · rename_i name next
    exact yields_ite (fun _ => builds_ok (takes_drop next)) (yields_error rfl)
  · refine (builds_anchorAndTag _ building).bind fun ⟨anchor?, name?, content⟩ => ?_
    refine (unbroken_fullTags handles name?).bind fun written? => ?_
    refine (builds_requireToken _ content).bind fun _ => ?_
    refine Yields.bind ((register_yields content anchor?).mono (fun _ same => same)
      fun _ => False.elim) fun building same => ?_
    -- What comes next is not changed by the anchor.
    rcases content with ⟨tokens, anchors⟩
    rcases building with ⟨registered, further⟩
    dsimp only at same
    subst same
    have takes : Takes 0 ⟨registered, anchors⟩ ⟨registered, further⟩ := ⟨[], rfl, rfl⟩
    refine takes.behind ?_
    dsimp only
    refine yields_ite (fun deep => ?_) ?_
    · have inner := nesting_nonneg registered
      exact yields_breakdown (.deep (by dsimp only; omega))
    refine yields_ite (fun indentless => ?_) ?_
    · rw [Bool.and_eq_true] at indentless
      have items := builds.indentless (depth + 1) ⟨registered, further⟩
      refine (items.deeper ?_).map fun _ => rfl
      simp [Place.extra, indentless.1]
    · split
      · rename_i next
        exact builds_ok (takes_drop next)
      · rename_i next
        refine Builds.behindStart ?_ next rfl
        have items := builds.flowItems (depth + 1) true (Building.drop ⟨registered, further⟩)
        exact (items.deeper (by omega)).map fun _ => rfl
      · rename_i next
        refine Builds.behindStart ?_ next rfl
        have entries := builds.flowEntries (depth + 1) true
          (Building.drop ⟨registered, further⟩)
        exact (entries.deeper (by omega)).map fun _ => rfl
      · rename_i next
        refine yields_ite (fun _ => ?_) builds_refuse
        refine Builds.behindStart ?_ next rfl
        have items := builds.blockItems (depth + 1) (Building.drop ⟨registered, further⟩)
        exact (items.deeper (by omega)).map fun _ => rfl
      · rename_i next
        refine yields_ite (fun _ => ?_) builds_refuse
        refine Builds.behindStart ?_ next rfl
        have entries := builds.blockEntries (depth + 1) (Building.drop ⟨registered, further⟩)
        exact (entries.deeper (by omega)).map fun _ => rfl
      · exact yields_ite (fun _ => builds_ok (.refl _)) builds_refuse

theorem BuildsAll.orEmpty_succ
    (place : Place)
    (stops : List Token) :
    Builds Prod.snd 0 (depth + place.extra) building
      (buildUnless handles place depth stops (fuel + 1) building) := by
  unfold buildUnless
  split
  · exact builds_ok (.refl building)
  · exact builds.node place depth building

theorem BuildsAll.value_succ
    (place : Place)
    (stops : List Token) :
    Builds Prod.snd 0 (depth + place.extra) building
      (buildValue handles place depth stops (fuel + 1) building) := by
  unfold buildValue
  split
  · rename_i isAt
    exact (builds.orEmpty place depth stops _).behindToken (peek?_of_isAt isAt) rfl
  · exact builds_ok (.refl building)

/-- An item of a sequence, and the items behind it. -/
theorem BuildsAll.blockItems_succ :
    Builds Prod.snd (-1) (depth + 1) building
      (buildBlockItems handles depth (fuel + 1) building) := by
  unfold buildBlockItems
  split
  · rename_i next
    have item := builds.orEmpty ⟨true, false⟩ depth [.blockEntry, .blockEnd] building.drop
    refine Builds.behindToken ?_ next rfl
    refine (item.deeper (by simp [Place.extra])).bind fun built => ?_
    exact (builds.blockItems depth built.2).map fun _ => rfl
  · rename_i next
    exact builds_ok (takes_drop next)
  · exact builds_refuse

theorem BuildsAll.indentless_succ :
    Builds Prod.snd 0 depth building
      (buildIndentless handles depth (fuel + 1) building) := by
  have refused := @builds_refuse (List Node × Building) Prod.snd 0 depth building
  unfold buildIndentless
  split
  · rename_i next
    have item := builds.orEmpty ⟨true, false⟩ depth [.blockEntry, .key, .value, .blockEnd]
      building.drop
    refine Builds.behindToken ?_ next rfl
    refine (item.deeper (by simp [Place.extra])).bind fun built => ?_
    exact (builds.indentless depth built.2).map fun _ => rfl
  · rename_i cause next
    rwa [Building.refuse, next] at refused
  · exact builds_ok (.refl building)

theorem BuildsAll.blockEntries_succ :
    Builds Prod.snd (-1) (depth + 1) building
      (buildBlockEntries handles depth (fuel + 1) building) := by
  unfold buildBlockEntries
  split
  · rename_i next
    refine Builds.behindToken ?_ next rfl
    refine (builds.orEmpty ⟨true, true⟩ depth _ building.drop).bind fun key => ?_
    refine (builds.value ⟨true, true⟩ depth _ key.2).bind fun value => ?_
    exact (builds.blockEntries depth value.2).map fun _ => rfl
  · rename_i next
    exact builds_ok (takes_drop next)
  · exact builds_refuse

theorem BuildsAll.flowItems_succ
    (first : Bool) :
    Builds Prod.snd (-1) (depth + 1) building
      (buildFlowItems handles depth first (fuel + 1) building) := by
  have later (built : Node × Building) :
      Builds Prod.snd (-1) (depth + 1) built.2
        (do
          let items ← buildFlowItems handles depth false fuel built.2
          return (built.1 :: items.1, items.2)) :=
    (builds.flowItems depth false built.2).map fun _ => rfl
  unfold buildFlowItems
  refine yields_ite (fun closed => builds_ok (takes_drop (peek?_of_isAt closed))) ?_
  split
  · exact builds_refuse
  · rename_i separated
    refine (takes_comma separated).behind ?_
    dsimp only
    generalize (if first = true then building else building.drop) = inside
    refine yields_ite (fun closed => builds_ok (takes_drop (peek?_of_isAt closed))) ?_
    refine yields_ite (fun keyed => ?_) ?_
    · refine yields_ite (fun deep => ?_) ?_
      · have inner := nesting_nonneg inside.tokens
        exact yields_breakdown (.deep (by omega))
      · refine Builds.behindToken ?_ (peek?_of_isAt keyed) rfl
        have key := builds.orEmpty ⟨false, false⟩ (depth + 1)
          [.value, .flowEntry, .flowSequenceEnd] inside.drop
        refine (key.deeper (by simp [Place.extra])).bind fun key => ?_
        have value := builds.value ⟨false, false⟩ (depth + 1)
          [.flowEntry, .flowSequenceEnd] key.2
        refine (value.deeper (by simp [Place.extra])).bind fun value => ?_
        exact later (.mapping {} [(key.1, value.1)], value.2)
    · have item := builds.node ⟨false, false⟩ depth inside
      exact (item.deeper (by simp [Place.extra])).bind later

theorem BuildsAll.flowEntries_succ
    (first : Bool) :
    Builds Prod.snd (-1) (depth + 1) building
      (buildFlowEntries handles depth first (fuel + 1) building) := by
  have later (built : (Node × Node) × Building) :
      Builds Prod.snd (-1) (depth + 1) built.2
        (do
          let entries ← buildFlowEntries handles depth false fuel built.2
          return (built.1 :: entries.1, entries.2)) :=
    (builds.flowEntries depth false built.2).map fun _ => rfl
  unfold buildFlowEntries
  refine yields_ite (fun closed => builds_ok (takes_drop (peek?_of_isAt closed))) ?_
  split
  · exact builds_refuse
  · rename_i separated
    refine (takes_comma separated).behind ?_
    dsimp only
    generalize (if first = true then building else building.drop) = inside
    refine yields_ite (fun closed => builds_ok (takes_drop (peek?_of_isAt closed))) ?_
    refine yields_ite (fun keyed => ?_) ?_
    · refine Builds.behindToken ?_ (peek?_of_isAt keyed) rfl
      have key := builds.orEmpty ⟨false, false⟩ depth
        [.value, .flowEntry, .flowMappingEnd] inside.drop
      refine (key.deeper (by simp [Place.extra])).bind fun key => ?_
      have value := builds.value ⟨false, false⟩ depth [.flowEntry, .flowMappingEnd] key.2
      refine (value.deeper (by simp [Place.extra])).bind fun value => ?_
      exact later ((key.1, value.1), value.2)
    · have key := builds.node ⟨false, false⟩ depth inside
      refine (key.deeper (by simp [Place.extra])).bind fun key => ?_
      exact later ((key.1, empty), key.2)

end

/-- However much fuel there is, building is bounded by the nesting of the tokens. -/
theorem buildsAll
    (handles : Handles)
    (fuel : Nat) :
    BuildsAll handles fuel := by
  induction fuel with
  | zero => exact buildsAll_zero handles
  | succ fuel builds =>
      constructor
      · exact fun place depth building => builds.node_succ depth building place
      · exact fun place depth stops building =>
          builds.orEmpty_succ depth building place stops
      · exact fun place depth stops building =>
          builds.value_succ depth building place stops
      · exact builds.blockItems_succ
      · exact builds.indentless_succ
      · exact builds.blockEntries_succ
      · exact fun depth first building => builds.flowItems_succ depth building first
      · exact fun depth first building => builds.flowEntries_succ depth building first

/-! ## Documents -/

/-- What is read behind tokens that leave no more collections open. -/
theorem Takes.yields
    {α : Type}
    {asserted : α → Prop}
    {depth : Int}
    {before after : List Token}
    {result : Except Fault α}
    (takes : Takes 0 ⟨before, []⟩ ⟨after, []⟩)
    (yields : Yields asserted (BuildingHazard depth after) result) :
    Yields asserted (BuildingHazard depth before) result := by
  refine yields.mono (fun _ holds => holds) fun _ hazard => takes.hazard ?_
  rwa [Int.mul_zero, Int.add_zero]

theorem takes_cons
    {token : Token}
    (weightless : token.weight = 0)
    (rest : List Token) :
    Takes 0 ⟨token :: rest, []⟩ ⟨rest, []⟩ :=
  ⟨[token], rfl, by rw [weight, weight, weightless, Int.add_zero]⟩

theorem refuse_yields
    {α : Type}
    {asserted : α → Prop}
    (depth : Int)
    (tokens : List Token) :
    Yields asserted (BuildingHazard depth tokens) (throw (Building.refuse ⟨tokens, []⟩)) :=
  @builds_refuse α (fun _ => ⟨tokens, []⟩) 0 depth ⟨tokens, []⟩

/-- Directives are passed over, and none of them breaks down. -/
theorem readPreamble_yields
    (depth : Int)
    (preamble : Preamble)
    (tokens : List Token) :
    Yields (fun read => Takes 0 ⟨tokens, []⟩ ⟨read.2, []⟩) (BuildingHazard depth tokens)
      (readPreamble preamble tokens) := by
  have further {directive : Directive} {rest : List Token} {preamble : Preamble}
      (yields : Yields (fun read => Takes 0 ⟨rest, []⟩ ⟨read.2, []⟩)
        (BuildingHazard depth rest) (readPreamble preamble rest)) :
      Yields (fun read => Takes 0 ⟨.directive directive :: rest, []⟩ ⟨read.2, []⟩)
        (BuildingHazard depth (.directive directive :: rest)) (readPreamble preamble rest) := by
    have takes : Takes 0 ⟨.directive directive :: rest, []⟩ ⟨rest, []⟩ := takes_cons rfl rest
    exact (takes.yields yields).mono (fun _ inside => takes.trans inside) fun _ hazard => hazard
  induction preamble, tokens using readPreamble.induct with
  | case1 preamble rest major refused =>
      rw [readPreamble, if_pos refused]
      exact yields_error rfl
  | case2 preamble rest major accepted induction =>
      rw [readPreamble, if_neg accepted]
      exact further induction
  | case3 preamble rest name lead repeated =>
      rw [readPreamble, if_pos repeated]
      exact yields_error rfl
  | case4 preamble rest name lead fresh induction =>
      rw [readPreamble, if_neg fresh]
      exact further induction
  | case5 preamble rest induction =>
      rw [readPreamble]
      exact further induction
  | case6 preamble tokens ended =>
      rw [readPreamble]
      · exact yields_ok (.refl _)
      · exact ended

theorem requireEnd_yields
    (tokens : List Token) :
    Yields (fun _ => True) (BuildingHazard 0 tokens) (requireEnd tokens) := by
  induction tokens using requireEnd.induct with
  | case1 rest induction => exact (takes_cons rfl rest).yields induction
  | case2 => exact yields_ok trivial
  | case3 tokens going pending =>
      rw [requireEnd]
      · refine Yields.bind (readPreamble_yields 0 {} tokens) fun read takes => ?_
        exact takes.yields (refuse_yields 0 read.2)
      · exact going
      · exact pending

theorem buildDocument_yields
    (handles : Handles)
    (tokens : List Token) :
    Yields (fun _ => True) (BuildingHazard 0 tokens) (buildDocument handles tokens) := by
  have node := (buildsAll handles (fuelFor tokens)).node ⟨true, false⟩ 0 ⟨tokens, []⟩
  refine Yields.bind node fun ⟨built, rest, anchors⟩ takes => ?_
  have ended : Yields (fun _ => True) (BuildingHazard 0 tokens) (requireEnd rest) :=
    Takes.yields takes (requireEnd_yields rest)
  exact ended.bind fun _ _ => yields_pure trivial

/-- The tokens of a document break down themselves, or they are nested too deeply. -/
theorem ofTokens?_yields
    (tokens : List Token) :
    Yields (fun _ => True) (BuildingHazard 0 tokens) (ofTokens? tokens) := by
  have document (handles : Handles) (tokens : List Token) :
      Yields (fun _ => True) (BuildingHazard 0 tokens)
        (do return some (← buildDocument handles tokens)) :=
    (buildDocument_yields handles tokens).bind fun _ _ => yields_pure trivial
  have nothing (tokens : List Token) :
      Yields (fun _ => True) (BuildingHazard 0 tokens)
        (do requireEnd tokens; return some empty) :=
    (requireEnd_yields tokens).bind fun _ _ => yields_pure trivial
  unfold ofTokens?
  refine yields_ite (fun _ => document _ _) ?_
  refine yields_ite (fun _ => yields_ok trivial) ?_
  refine Yields.bind (readPreamble_yields 0 {} tokens) fun ⟨preamble, left⟩ takes => ?_
  refine takes.yields ?_
  dsimp only
  split
  · rename_i rest
    have behind : Takes 0 ⟨.documentStart :: rest, []⟩ ⟨rest, []⟩ := takes_cons rfl rest
    refine behind.yields ?_
    split
    · exact nothing _
    · exact nothing _
    · exact nothing _
    · exact nothing _
    · exact document _ _
  · exact refuse_yields 0 _

end Node

end Delimit.Yaml
