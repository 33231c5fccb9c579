import Delimit.Yaml.Construction
import Mathlib.Data.List.Forall2

/-!
# Graphs of plain documents

A document is plain if its nodes carry no tags and no names, so that there are no
aliases, and if the keys of its mappings are plain texts.  Its graph is its tree: every
collection comes before its parts, and the vertices of a node stay what they are when
further nodes are added.
-/

namespace Delimit.Yaml

/-- The entries of a mapping whose keys are plain texts. -/
def Node.keyed
    (entries : List (List Char × Node)) :
    List (Node × Node) :=
  entries.map fun entry => (.scalar {} true entry.1, entry.2)

namespace Graph

/-- A vertex of a graph is the root of a plain document. -/
inductive Represents (graph : Graph) : Node → NodeId → Prop where
  | scalar
      {plain : Bool}
      {text : List Char}
      {value : Scalar}
      {node : NodeId} :
      graph.vertices[node]? = some ⟨Tag.ofScalar {} plain text, .text text⟩ →
      Meaning.ofScalar (Tag.ofScalar {} plain text) text = .ok value →
      Represents graph (.scalar {} plain text) node
  | sequence
      {items : List Node}
      {parts : List NodeId}
      {node : NodeId} :
      graph.vertices[node]? = some ⟨.sequence, .sequence parts⟩ →
      (∀ part ∈ parts, node < part) →
      List.Forall₂ (Represents graph) items parts →
      Represents graph (.sequence {} items) node
  | mapping
      {entries : List (List Char × Node)}
      {parts : List (NodeId × NodeId)}
      {node : NodeId} :
      graph.vertices[node]? = some ⟨.mapping, .mapping parts⟩ →
      (∀ part ∈ parts, node < part.1 ∧ node < part.2) →
      List.Forall₂
        (fun entry part => graph.vertices[part.1]? = some ⟨.string, .text entry.1⟩)
        entries parts →
      List.Forall₂ (fun entry part => Represents graph entry.2 part.2) entries parts →
      Represents graph (.mapping {} (Node.keyed entries)) node

/-- The vertices of a graph from a number on are vertices of another one. -/
def AgreesFrom
    (start : Nat)
    (graph later : Graph) :
    Prop :=
  ∀ node vertex,
    start ≤ node → graph.vertices[node]? = some vertex → later.vertices[node]? = some vertex

theorem AgreesFrom.trans
    {start : Nat}
    {first second third : Graph}
    (one : AgreesFrom start first second)
    (two : AgreesFrom start second third) :
    AgreesFrom start first third :=
  fun node vertex from' found => two node vertex from' (one node vertex from' found)

theorem AgreesFrom.mono
    {start later : Nat}
    {graph other : Graph}
    (agrees : AgreesFrom start graph other)
    (further : start ≤ later) :
    AgreesFrom later graph other :=
  fun node vertex from' found => agrees node vertex (Nat.le_trans further from') found

/-- Wherever a node is added, it is represented by its first vertex from then on. -/
structure Added
    (node : Node)
    (graph : Graph) :
    Prop where
  first : (add node graph).1 = graph.vertices.size
  larger : graph.vertices.size < (add node graph).2.vertices.size
  kept : AgreesFrom 0 graph (add node graph).2
  represents :
    ∀ later : Graph,
      AgreesFrom graph.vertices.size (add node graph).2 later →
        later.Represents node graph.vertices.size

def IsAddable
    (node : Node) :
    Prop :=
  ∀ graph : Graph, Added node graph

theorem vertices_push
    (graph : Graph)
    (vertex : Vertex) :
    (graph.push none vertex).2.vertices = graph.vertices.push vertex := rfl

theorem agreesFrom_push
    (graph : Graph)
    (vertex : Vertex) :
    AgreesFrom 0 graph (graph.push none vertex).2 := by
  intro node other _ found
  rw [vertices_push, Array.getElem?_push, if_neg, found]
  rintro rfl
  simp at found

theorem isAddable_scalar
    {plain : Bool}
    {text : List Char}
    {value : Scalar}
    (meaning : Meaning.ofScalar (Tag.ofScalar {} plain text) text = .ok value) :
    IsAddable (.scalar {} plain text) := by
  intro graph
  refine ⟨rfl, ?_, agreesFrom_push graph _, ?_⟩
  · rw [add]
    change _ < (graph.vertices.push _).size
    rw [Array.size_push]
    exact Nat.lt_succ_self _
  · intro later agrees
    refine .scalar (agrees _ _ (Nat.le_refl _) ?_) meaning
    rw [add]
    change (graph.vertices.push _)[_]? = _
    rw [Array.getElem?_push_size]

/-! ## Collections -/

theorem vertices_setContent
    (graph : Graph)
    (node : NodeId)
    (content : Content) :
    (graph.setContent node content).vertices =
      graph.vertices.modify node fun vertex => { vertex with content } := rfl

theorem getElem?_setContent_of_ne
    (graph : Graph)
    {node other : NodeId}
    (different : other ≠ node)
    (content : Content) :
    (graph.setContent node content).vertices[other]? = graph.vertices[other]? := by
  rw [vertices_setContent, Array.getElem?_modify, if_neg different.symm]

theorem getElem?_setContent
    {graph : Graph}
    {node : NodeId}
    {vertex : Vertex}
    (found : graph.vertices[node]? = some vertex)
    (content : Content) :
    (graph.setContent node content).vertices[node]? = some { vertex with content } := by
  rw [vertices_setContent, Array.getElem?_modify, if_pos rfl, found]
  rfl

/-- Some nodes are added to a graph, whose own vertices stay as they are. -/
structure Grows
    (graph later : Graph) :
    Prop where
  larger : graph.vertices.size ≤ later.vertices.size
  kept : AgreesFrom 0 graph later

/-- A collection is added with its parts behind it, and is given its parts at the end. -/
theorem grows_setContent
    {graph later : Graph}
    {tag : Tag}
    {empty : Content}
    (grows : Grows (graph.push none ⟨tag, empty⟩).2 later)
    (content : Content) :
    graph.vertices.size < (later.setContent graph.vertices.size content).vertices.size ∧
      AgreesFrom 0 graph (later.setContent graph.vertices.size content) ∧
        ∀ last : Graph,
          AgreesFrom graph.vertices.size
              (later.setContent graph.vertices.size content) last →
            last.vertices[graph.vertices.size]? = some ⟨tag, content⟩ ∧
              AgreesFrom (graph.push none ⟨tag, empty⟩).2.vertices.size later last := by
  have size : (graph.push none ⟨tag, empty⟩).2.vertices.size = graph.vertices.size + 1 :=
    Array.size_push _
  have larger := grows.larger
  have here : later.vertices[graph.vertices.size]? = some ⟨tag, empty⟩ :=
    grows.kept _ _ (Nat.zero_le _) Array.getElem?_push_size
  refine ⟨?_, ?_, fun last agrees => ⟨?_, ?_⟩⟩
  · rw [vertices_setContent, Array.size_modify]
    omega
  · intro node vertex _ found
    have other : node ≠ graph.vertices.size := by
      rintro rfl
      simp at found
    rw [getElem?_setContent_of_ne later other]
    exact grows.kept _ _ (Nat.zero_le _)
      (agreesFrom_push graph _ node vertex (Nat.zero_le _) found)
  · exact agrees _ _ (Nat.le_refl _) (getElem?_setContent here content)
  · intro node vertex behind found
    have other : node ≠ graph.vertices.size := by omega
    refine agrees node vertex (by omega) ?_
    rwa [getElem?_setContent_of_ne later other]

theorem addItems_cons
    (item : Node)
    (items : List Node)
    (graph : Graph) :
    addItems (item :: items) graph =
      ((add item graph).1 :: (addItems items (add item graph).2).1,
        (addItems items (add item graph).2).2) := rfl

theorem addItems_grows
    {items : List Node}
    (addable : ∀ item ∈ items, IsAddable item)
    (graph : Graph) :
    Grows graph (addItems items graph).2 ∧
      (∀ part ∈ (addItems items graph).1, graph.vertices.size ≤ part) ∧
        ∀ later : Graph,
          AgreesFrom graph.vertices.size (addItems items graph).2 later →
            List.Forall₂ later.Represents items (addItems items graph).1 := by
  induction items generalizing graph with
  | nil => exact ⟨⟨Nat.le_refl _, fun _ _ _ found => found⟩, nofun, fun _ _ => .nil⟩
  | cons item items induction =>
      have added := addable item List.mem_cons_self graph
      obtain ⟨grows, behind, represents⟩ := induction
        (fun other member => addable other (List.mem_cons_of_mem _ member)) (add item graph).2
      have larger := added.larger
      have further := grows.larger
      rw [addItems_cons]
      refine ⟨⟨Nat.le_trans (Nat.le_of_lt larger) further, added.kept.trans grows.kept⟩, ?_, ?_⟩
      · intro part member
        rcases List.mem_cons.mp member with rfl | member
        · exact Nat.le_of_eq added.first.symm
        · have := behind part member
          omega
      · intro later agrees
        refine .cons ?_ (represents later (agrees.mono (by omega)))
        rw [added.first]
        exact added.represents later ((grows.kept.mono (Nat.zero_le _)).trans agrees)

theorem isAddable_sequence
    {items : List Node}
    (addable : ∀ item ∈ items, IsAddable item) :
    IsAddable (.sequence {} items) := by
  intro graph
  obtain ⟨grows, behind, represents⟩ :=
    addItems_grows addable (graph.push none ⟨.sequence, .sequence []⟩).2
  obtain ⟨larger, kept, last⟩ := grows_setContent grows
    (.sequence (addItems items (graph.push none ⟨.sequence, .sequence []⟩).2).1)
  refine ⟨rfl, larger, kept, fun later agrees => ?_⟩
  obtain ⟨found, parts⟩ := last later agrees
  have size : (graph.push none ⟨.sequence, .sequence []⟩).2.vertices.size =
      graph.vertices.size + 1 := Array.size_push _
  refine .sequence found (fun part member => ?_) (represents later parts)
  exact Nat.lt_of_lt_of_le (by omega) (behind part member)

theorem addEntries_cons
    (name : List Char)
    (value : Node)
    (entries : List (List Char × Node))
    (graph : Graph) :
    addEntries (Node.keyed ((name, value) :: entries)) graph =
      let (key, graph) := add (.scalar {} true name) graph
      let (value, graph) := add value graph
      let graph := { graph with entryCount := graph.entryCount + 1 }
      let (rest, graph) := addEntries (Node.keyed entries) graph
      ((key, value) :: rest, graph) := rfl

theorem addEntries_grows
    {entries : List (List Char × Node)}
    (addable :
      ∀ entry ∈ entries, Tag.ofPlain entry.1 = .string ∧ IsAddable entry.2)
    (graph : Graph) :
    Grows graph (addEntries (Node.keyed entries) graph).2 ∧
      (∀ part ∈ (addEntries (Node.keyed entries) graph).1,
        graph.vertices.size ≤ part.1 ∧ graph.vertices.size ≤ part.2) ∧
        ∀ later : Graph,
          AgreesFrom graph.vertices.size (addEntries (Node.keyed entries) graph).2 later →
            List.Forall₂
                (fun entry part => later.vertices[part.1]? = some ⟨.string, .text entry.1⟩)
                entries (addEntries (Node.keyed entries) graph).1 ∧
              List.Forall₂ (fun entry part => later.Represents entry.2 part.2)
                entries (addEntries (Node.keyed entries) graph).1 := by
  induction entries generalizing graph with
  | nil =>
      exact ⟨⟨Nat.le_refl _, fun _ _ _ found => found⟩, nofun, fun _ _ => ⟨.nil, .nil⟩⟩
  | cons entry entries induction =>
      obtain ⟨tag, valueAddable⟩ := addable entry List.mem_cons_self
      obtain ⟨name, value⟩ := entry
      -- The key takes the first vertex, the value the ones behind it.
      have keyKept : AgreesFrom 0 graph (add (.scalar {} true name) graph).2 :=
        agreesFrom_push graph _
      have keyFirst : (add (.scalar {} true name) graph).1 = graph.vertices.size := rfl
      have keySize : (add (.scalar {} true name) graph).2.vertices.size =
          graph.vertices.size + 1 := Array.size_push _
      have keyFound : (add (.scalar {} true name) graph).2.vertices[graph.vertices.size]? =
          some ⟨.string, .text name⟩ := by
        rw [← tag]
        exact Array.getElem?_push_size
      rw [addEntries_cons]
      generalize add (.scalar {} true name) graph = keyed at *
      obtain ⟨key, withKey⟩ := keyed
      dsimp only at *
      have added := valueAddable withKey
      have valueFirst := added.first
      have larger := added.larger
      have valueKept := added.kept
      have represents := added.represents
      generalize add value withKey = valued at *
      obtain ⟨part, withValue⟩ := valued
      dsimp only at *
      obtain ⟨grows, behind, laterRepresents⟩ := induction
        (fun other member => addable other (List.mem_cons_of_mem _ member))
        { withValue with entryCount := withValue.entryCount + 1 }
      generalize addEntries (Node.keyed entries)
        { withValue with entryCount := withValue.entryCount + 1 } = others at *
      obtain ⟨parts, last⟩ := others
      have further : withValue.vertices.size ≤ last.vertices.size := grows.larger
      have lastKept : AgreesFrom 0 withValue last := grows.kept
      dsimp only at *
      refine ⟨⟨by omega, keyKept.trans (valueKept.trans lastKept)⟩, ?_, ?_⟩
      · intro other member
        rcases List.mem_cons.mp member with rfl | member
        · rw [keyFirst, valueFirst]
          exact ⟨Nat.le_refl _, by omega⟩
        · have within : graph.vertices.size ≤ withValue.vertices.size := by omega
          have ⟨key, value⟩ := behind other member
          exact ⟨Nat.le_trans within key, Nat.le_trans within value⟩
      · intro later agrees
        have fromValue : AgreesFrom withKey.vertices.size withValue later :=
          (lastKept.mono (Nat.zero_le _)).trans (agrees.mono (by omega))
        obtain ⟨keys, values⟩ := laterRepresents later (agrees.mono (by omega))
        refine ⟨.cons ?_ keys, .cons ?_ values⟩
        · rw [keyFirst]
          refine agrees _ _ (Nat.le_refl _) ?_
          exact (valueKept.trans lastKept) _ _ (Nat.zero_le _) keyFound
        · rw [valueFirst]
          exact represents later fromValue

theorem isAddable_mapping
    {entries : List (List Char × Node)}
    (addable :
      ∀ entry ∈ entries, Tag.ofPlain entry.1 = .string ∧ IsAddable entry.2) :
    IsAddable (.mapping {} (Node.keyed entries)) := by
  intro graph
  obtain ⟨grows, behind, represents⟩ :=
    addEntries_grows addable (graph.push none ⟨.mapping, .mapping []⟩).2
  obtain ⟨larger, kept, last⟩ := grows_setContent grows
    (.mapping (addEntries (Node.keyed entries) (graph.push none ⟨.mapping, .mapping []⟩).2).1)
  refine ⟨rfl, larger, kept, fun later agrees => ?_⟩
  obtain ⟨found, parts⟩ := last later agrees
  obtain ⟨keys, values⟩ := represents later parts
  have size : (graph.push none ⟨.mapping, .mapping []⟩).2.vertices.size =
      graph.vertices.size + 1 := Array.size_push _
  have within : graph.vertices.size <
      (graph.push none ⟨.mapping, .mapping []⟩).2.vertices.size := by omega
  refine .mapping found (fun part member => ?_) keys values
  have ⟨key, value⟩ := behind part member
  exact ⟨Nat.lt_of_lt_of_le within key, Nat.lt_of_lt_of_le within value⟩

/-- The graph of a plain document represents it from its first vertex on. -/
theorem represents_ofNode
    {node : Node}
    (addable : IsAddable node) :
    (ofNode node).Represents node 0 :=
  (addable {}).represents (ofNode node) fun _ _ _ found => found

end Graph

end Delimit.Yaml
