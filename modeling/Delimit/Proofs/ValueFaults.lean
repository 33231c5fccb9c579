import Delimit.Proofs.PlainGraphs
import Delimit.Proofs.TokenFaults

/-!
# Faults of values

The making of values breaks down at scalars that are no values of their tags.  Merge
keys move entries about and leave texts and tags as they are; what they may come to is
a nesting that is too deep.

Keys of default values are different, since they lend a mapping the text of another
node, and change their tags.  A document without them is followed here.
-/

namespace Delimit.Yaml

/-- Every further item keeps what is asserted. -/
theorem Yields.foldlM
    {α β : Type}
    {asserted : α → Prop}
    {cause : Breakdown → Prop}
    {step : α → β → Except Fault α}
    (keeps : ∀ value item, asserted value → Yields asserted cause (step value item))
    {first : α}
    (holds : asserted first)
    (items : List β) :
    Yields asserted cause (items.foldlM step first) := by
  induction items generalizing first with
  | nil => exact yields_pure holds
  | cons item items induction =>
      rw [List.foldlM_cons]
      exact (keeps first item holds).bind fun value holds => induction holds

namespace Graph

/-- No node is the key of a default value. -/
def Plain
    (graph : Graph) :
    Prop :=
  ∀ node, graph.tag node ≠ .defaultValue

/-- What the making of values breaks down at. -/
inductive Hazard (graph : Graph) : Breakdown → Prop where
  /-- A scalar is no value of its tag. -/
  | scalar {node : NodeId} {written : List Char} {cause : Breakdown}
      (text : graph.content node = .text written)
      (broken : Meaning.ofScalar (graph.tag node) written = .error (.breakdown cause)) :
      Hazard graph cause
  | merge {node : NodeId}
      (tag : graph.tag node = .merge) :
      Hazard graph .tooDeep

/-- A graph with the same tags as before and with no other texts. -/
structure Alike
    (graph later : Graph) :
    Prop where
  tag : ∀ node, later.tag node = graph.tag node
  text : ∀ {node written},
    later.content node = .text written → graph.content node = .text written

section

variable {graph later : Graph}

theorem Alike.refl
    (graph : Graph) :
    Alike graph graph :=
  ⟨fun _ => rfl, fun same => same⟩

theorem Alike.trans
    {last : Graph}
    (alike : Alike graph later)
    (further : Alike later last) :
    Alike graph last where
  tag node := (further.tag node).trans (alike.tag node)
  text same := alike.text (further.text same)

theorem Alike.plain
    (alike : Alike graph later)
    (plain : graph.Plain) :
    later.Plain :=
  fun node => alike.tag node ▸ plain node

theorem Alike.hazard
    {cause : Breakdown}
    (alike : Alike graph later)
    (hazard : Hazard later cause) :
    Hazard graph cause := by
  cases hazard with
  | scalar text broken => exact .scalar (alike.text text) (alike.tag _ ▸ broken)
  | merge tag => exact .merge (alike.tag _ ▸ tag)

theorem alike_setContent
    (graph : Graph)
    (node : NodeId)
    (entries : List (NodeId × NodeId)) :
    Alike graph (graph.setContent node (.mapping entries)) := by
  constructor
  · intro other
    unfold Graph.tag
    by_cases same : other = node
    · subst same
      rw [vertices_setContent, Array.getElem?_modify, if_pos rfl]
      cases graph.vertices[other]? <;> rfl
    · rw [getElem?_setContent_of_ne graph same]
  · intro other written text
    unfold Graph.content at text ⊢
    by_cases same : other = node
    · subst same
      rw [vertices_setContent, Array.getElem?_modify, if_pos rfl] at text
      cases found : graph.vertices[other]? with
      | none => rwa [found] at text
      | some vertex =>
          rw [found] at text
          cases text
    · rwa [getElem?_setContent_of_ne graph same] at text

/-! ## Merge keys -/

theorem plainKey_eq
    (plain : graph.Plain)
    (key : NodeId) :
    graph.plainKey key = graph :=
  if_neg (by simpa using plain key)

theorem alike_settle
    (plain : graph.Plain)
    (node : NodeId)
    (merged : List (NodeId × NodeId)) :
    Alike graph (graph.settle node merged) := by
  have same (entries : List (NodeId × NodeId)) :
      entries.foldl (fun graph entry => graph.plainKey entry.1) graph = graph := by
    induction entries with
    | nil => rfl
    | cons entry entries induction =>
        rw [List.foldl_cons, plainKey_eq plain, induction]
  unfold settle
  dsimp only
  rw [same]
  exact alike_setContent graph node _

theorem exists_merge
    {entries others : List (NodeId × NodeId)}
    {source : NodeId}
    (found : graph.takeMerge? entries = some (source, others)) :
    ∃ node, graph.tag node = .merge := by
  induction entries generalizing source others with
  | nil => cases found
  | cons entry entries induction =>
      unfold takeMerge? at found
      split at found
      · rename_i tag
        exact ⟨entry.1, eq_of_beq tag⟩
      · rcases Option.map_eq_some_iff.mp found with ⟨taken, inner, -⟩
        exact induction inner

/-- Merging leaves tags and texts as they are, and needs a merge key to go too deep. -/
theorem mergeFrom_yields
    (plain : graph.Plain)
    (fuel : Nat)
    (node : NodeId)
    (merged : List (NodeId × NodeId)) :
    Yields (Alike graph)
      (fun cause => cause = .tooDeep ∧ (fuel = 0 ∨ ∃ key, graph.tag key = .merge))
      (mergeFrom fuel node merged graph) := by
  induction fuel generalizing graph node merged with
  | zero => exact yields_breakdown ⟨rfl, .inl rfl⟩
  | succ fuel induction =>
      unfold mergeFrom
      split
      · exact yields_ok (alike_settle plain node merged)
      · rename_i source others found
        have hasMerge := exists_merge found
        have taken := alike_setContent graph node others
        have further {later : Graph} (alike : Alike graph later) (node : NodeId)
            (merged : List (NodeId × NodeId)) :
            Yields (Alike graph)
              (fun cause => cause = .tooDeep ∧
                (fuel + 1 = 0 ∨ ∃ key, graph.tag key = .merge))
              (mergeFrom fuel node merged later) :=
          (induction (alike.plain plain) node merged).mono
            (fun _ inner => alike.trans inner) fun _ hazard => ⟨hazard.1, .inr hasMerge⟩
        dsimp only
        split
        · exact yields_throw rfl
        · exact (further taken source []).bind fun later alike => further alike node _
        · rename_i items _
          refine Yields.bind (@Yields.foldlM _ _ (fun state => Alike graph state.2) _ _ ?_ _
            taken items) fun state alike => further alike node _
          intro state item alike
          split
          · exact (further alike item []).bind fun _ alike => yields_pure alike
          · exact yields_throw rfl

theorem flatten_yields
    (plain : graph.Plain)
    (node : NodeId) :
    Yields (Alike graph) (Hazard graph) (graph.flatten node) := by
  refine (mergeFrom_yields plain _ node []).mono (fun _ alike => alike) ?_
  rintro _ ⟨rfl, impossible | ⟨key, tag⟩⟩
  · cases impossible
  · exact .merge tag

/-! ## Texts -/

/-- Without default values, only a text has a text. -/
theorem text_yields
    (plain : graph.Plain)
    (node : NodeId) :
    Yields (fun written => graph.content node = .text written) (fun _ => False)
      (graph.text node) := by
  unfold Graph.text textOf
  split
  · rename_i written content
    exact yields_ok content
  · exact yields_error rfl
  · split
    · rename_i found
      have isDefault := List.find?_some found
      exact (plain _ (eq_of_beq isDefault)).elim
    · exact yields_error rfl

end

end Graph

/-! ## Objects -/

namespace Construction

variable
    {graph : Graph}
    {construction : Construction}

/-- A construction goes on with a graph that is like the one it began with. -/
def GoesOn
    (graph : Graph)
    (result : Except Fault Construction) :
    Prop :=
  Yields (fun construction => graph.Alike construction.graph) graph.Hazard result

theorem scalarOf_yields
    (plain : graph.Plain)
    (node : NodeId) :
    Yields (fun _ => True) graph.Hazard (scalarOf graph node) := by
  refine Yields.bind ((graph.text_yields plain node).mono (fun _ text => text)
    fun _ => False.elim) fun written text => ?_
  split
  · rename_i _ content
    rw [text] at content
    cases content
  · exact yields_true_iff.mpr fun _ broken => .scalar text broken

/-- The object of a node that is met is that of a scalar, or waits to be filled. -/
theorem goesOn_meet
    (plain : graph.Plain)
    (alike : graph.Alike construction.graph)
    (node : NodeId) :
    GoesOn graph (construction.meet node) := by
  have scalar : GoesOn graph (do
      let value ← scalarOf construction.graph node
      return construction.setObject node (.scalar value)) :=
    ((scalarOf_yields (alike.plain plain) node).mono (fun _ holds => holds)
      fun _ hazard => alike.hazard hazard).bind fun _ _ => yields_pure alike
  unfold meet
  split
  · exact yields_ok alike
  · split
    · exact yields_ok alike
    · exact yields_ok alike
    · exact yields_ok alike
    · exact yields_ok alike
    · exact yields_ok alike
    · exact yields_error rfl
    · exact yields_error rfl
    · exact yields_error rfl
    · exact scalar

theorem meetEntry_yields
    (plain : graph.Plain)
    (alike : graph.Alike construction.graph)
    (key value : NodeId) :
    Yields (fun met => graph.Alike met.2.graph) graph.Hazard
      (construction.meetEntry key value) := by
  refine (goesOn_meet plain alike key).bind fun met alike => ?_
  split
  · exact (goesOn_meet plain alike value).bind fun _ alike => yields_pure alike
  · exact yields_throw rfl

theorem meetEntries_yields
    (plain : graph.Plain)
    (alike : graph.Alike construction.graph)
    (entries : List (NodeId × NodeId)) :
    Yields (fun met => graph.Alike met.2.graph) graph.Hazard
      (meetEntries entries construction) := by
  induction entries generalizing construction with
  | nil => exact yields_ok alike
  | cons entry entries induction =>
      refine (meetEntry_yields plain alike entry.1 entry.2).bind fun met alike => ?_
      exact (induction alike).bind fun _ alike => yields_pure alike

theorem meetPairs_yields
    (plain : graph.Plain)
    (alike : graph.Alike construction.graph)
    (items : List NodeId) :
    Yields (fun met => graph.Alike met.2.graph) graph.Hazard
      (meetPairs items construction) := by
  induction items generalizing construction with
  | nil => exact yields_ok alike
  | cons item items induction =>
      unfold meetPairs
      split
      · refine (goesOn_meet plain alike _).bind fun _ alike => ?_
        refine (goesOn_meet plain alike _).bind fun _ alike => ?_
        exact (induction alike).bind fun _ alike => yields_pure alike
      · exact yields_error rfl

theorem fillMapping_yields
    (plain : graph.Plain)
    (alike : graph.Alike construction.graph)
    (node : NodeId) :
    Yields (fun met => graph.Alike met.2.graph) graph.Hazard
      (construction.fillMapping node) := by
  unfold fillMapping
  split
  · refine Yields.bind ((Graph.flatten_yields (alike.plain plain) node).mono
      (fun _ further => alike.trans further) fun _ hazard => alike.hazard hazard) ?_
    exact fun later alike => meetEntries_yields plain alike _
  · exact yields_error rfl

theorem goesOn_fill
    (plain : graph.Plain)
    (alike : graph.Alike construction.graph)
    (node : NodeId) :
    GoesOn graph (construction.fill node) := by
  have filled := fillMapping_yields plain alike node
  unfold fill
  split
  · exact filled.bind fun _ alike => yields_pure alike
  · exact filled.bind fun _ alike => yields_pure alike
  · split
    · rename_i items _
      exact (Yields.foldlM (fun _ item alike => goesOn_meet plain alike item) alike items).bind
        fun _ alike => yields_pure alike
    · exact yields_error rfl
  · split
    · exact (meetPairs_yields plain alike _).bind fun _ alike => yields_pure alike
    · exact yields_error rfl

theorem goesOn_fillAll
    (plain : graph.Plain)
    (alike : graph.Alike construction.graph)
    (levels : Nat) :
    GoesOn graph (fillAll levels construction) := by
  induction levels generalizing construction with
  | zero => exact yields_ok alike
  | succ levels induction =>
      unfold fillAll
      split
      · exact yields_ok alike
      · refine Yields.bind (Yields.foldlM (fun _ node alike => goesOn_fill plain alike node)
          ?_ construction.waiting.reverse) fun _ alike => induction alike
        exact alike

/-- The objects of a graph without default values break down at scalars or merge keys only. -/
theorem goesOn_ofGraph
    (plain : graph.Plain) :
    GoesOn graph (ofGraph graph) :=
  (goesOn_meet plain (.refl graph) 0).bind fun _ alike => goesOn_fillAll plain alike _

end Construction

/-! ## Nodes -/

namespace Node

/-- The nodes that a node consists of, itself among them. -/
inductive Part (part : Node) : Node → Prop where
  | self : Part part part
  | item {properties : Properties} {items : List Node} {item : Node}
      (member : item ∈ items)
      (inside : Part part item) :
      Part part (.sequence properties items)
  | key {properties : Properties} {entries : List (Node × Node)} {entry : Node × Node}
      (member : entry ∈ entries)
      (inside : Part part entry.1) :
      Part part (.mapping properties entries)
  | value {properties : Properties} {entries : List (Node × Node)} {entry : Node × Node}
      (member : entry ∈ entries)
      (inside : Part part entry.2) :
      Part part (.mapping properties entries)

/-- The tag of a node; an alias has none of its own. -/
def tag : Node → Tag
  | .scalar properties plain text => Tag.ofScalar properties plain text
  | .sequence properties _ => Graph.collectionTag properties .sequence
  | .mapping properties _ => Graph.collectionTag properties .mapping
  | .alias _ => .unknown

end Node

namespace Graph

open Node (Part)

/-- A vertex that is made of a part of a node, and of a scalar if it is a text. -/
def StandsFor
    (root : Node)
    (vertex : Vertex) :
    Prop :=
  ∃ part, Part part root ∧ vertex.tag = part.tag ∧
    ∀ written, vertex.content = .text written →
      ∃ properties plain, part = .scalar properties plain written

/-- A graph whose vertices are made of parts of a node. -/
def MadeOf
    (root : Node)
    (graph : Graph) :
    Prop :=
  ∀ (id : NodeId) (vertex : Vertex),
    graph.vertices[id]? = some vertex → StandsFor root vertex

section

variable
    {root : Node}
    {graph : Graph}

theorem MadeOf.push
    (madeOf : MadeOf root graph)
    (anchor? : Option (List Char))
    {vertex : Vertex}
    (standsFor : StandsFor root vertex) :
    MadeOf root (graph.push anchor? vertex).2 := by
  intro id other found
  change (graph.vertices.push vertex)[id]? = some other at found
  rw [Array.getElem?_push] at found
  split at found
  · cases found
    exact standsFor
  · exact madeOf id other found

theorem MadeOf.setContent
    (madeOf : MadeOf root graph)
    (node : NodeId)
    {content : Content}
    (collection : ∀ written, content ≠ .text written) :
    MadeOf root (graph.setContent node content) := by
  intro id vertex found
  by_cases same : id = node
  · subst same
    rw [vertices_setContent, Array.getElem?_modify, if_pos rfl] at found
    rcases Option.map_eq_some_iff.mp found with ⟨before, old, rfl⟩
    rcases madeOf id before old with ⟨part, inside, tag, -⟩
    exact ⟨part, inside, tag, fun written text => (collection written text).elim⟩
  · rw [getElem?_setContent_of_ne graph same] at found
    exact madeOf id vertex found

mutual

theorem madeOf_add
    (node : Node)
    {graph : Graph}
    (madeOf : MadeOf root graph)
    (parts : ∀ part, Part part node → Part part root) :
    MadeOf root (add node graph).2 := by
  match node, parts with
  | .scalar properties plain text, parts =>
      refine madeOf.push properties.anchor? ⟨_, parts _ .self, rfl, ?_⟩
      rintro written ⟨⟩
      exact ⟨properties, plain, rfl⟩
  | .alias name, _ => exact madeOf
  | .sequence properties items, parts =>
      have pushed : MadeOf root (graph.push properties.anchor?
          ⟨collectionTag properties .sequence, .sequence []⟩).2 :=
        madeOf.push _ ⟨_, parts _ .self, rfl, nofun⟩
      exact (madeOf_addItems items pushed fun item member part inside =>
        parts part (.item member inside)).setContent _ nofun
  | .mapping properties entries, parts =>
      have pushed : MadeOf root (graph.push properties.anchor?
          ⟨collectionTag properties .mapping, .mapping []⟩).2 :=
        madeOf.push _ ⟨_, parts _ .self, rfl, nofun⟩
      exact (madeOf_addEntries entries pushed
        (fun entry member part inside => parts part (.key member inside))
        (fun entry member part inside => parts part (.value member inside))).setContent _ nofun

theorem madeOf_addItems
    (items : List Node)
    {graph : Graph}
    (madeOf : MadeOf root graph)
    (parts : ∀ item ∈ items, ∀ part, Part part item → Part part root) :
    MadeOf root (addItems items graph).2 := by
  cases items with
  | nil => exact madeOf
  | cons item items =>
      exact madeOf_addItems items (madeOf_add item madeOf (parts item List.mem_cons_self))
        fun other member => parts other (List.mem_cons_of_mem item member)

theorem madeOf_addEntries
    (entries : List (Node × Node))
    {graph : Graph}
    (madeOf : MadeOf root graph)
    (keys : ∀ entry ∈ entries, ∀ part, Part part entry.1 → Part part root)
    (values : ∀ entry ∈ entries, ∀ part, Part part entry.2 → Part part root) :
    MadeOf root (addEntries entries graph).2 := by
  cases entries with
  | nil => exact madeOf
  | cons entry entries =>
      rcases entry with ⟨key, value⟩
      have withKey := madeOf_add key madeOf (keys _ List.mem_cons_self)
      have withValue := madeOf_add value withKey (values _ List.mem_cons_self)
      have counted : MadeOf root { (add value (add key graph).2).2 with
          entryCount := (add value (add key graph).2).2.entryCount + 1 } :=
        fun id vertex found => withValue id vertex found
      exact madeOf_addEntries entries counted
        (fun other member => keys other (List.mem_cons_of_mem _ member))
        fun other member => values other (List.mem_cons_of_mem _ member)

end

theorem madeOf_ofNode
    (node : Node) :
    MadeOf node (ofNode node) := by
  refine madeOf_add node ?_ fun _ inside => inside
  intro id vertex found
  simp at found

end

end Graph

end Delimit.Yaml
