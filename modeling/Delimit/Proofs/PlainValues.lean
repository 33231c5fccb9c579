import Delimit.Proofs.PlainGraphs

/-!
# Values of plain documents

A plain document stands for the value of its tree.  Objects are made level by level,
so what holds of them in between is this: the object of a node that does not wait is
final, and its parts have been met.  A collection that waits comes before the ones that
its filling lets wait, so there are enough levels.
-/

namespace Delimit.Yaml

namespace Graph

theorem tag_eq
    {graph : Graph}
    {node : NodeId}
    {vertex : Vertex}
    (found : graph.vertices[node]? = some vertex) :
    graph.tag node = vertex.tag := by
  rw [tag, found]

theorem content_eq
    {graph : Graph}
    {node : NodeId}
    {vertex : Vertex}
    (found : graph.vertices[node]? = some vertex) :
    graph.content node = vertex.content := by
  rw [content, found]

theorem lt_size
    {graph : Graph}
    {node : NodeId}
    {vertex : Vertex}
    (found : graph.vertices[node]? = some vertex) :
    node < graph.vertices.size :=
  (Array.getElem?_eq_some_iff.mp found).1

/-- The text of a key. -/
def keyText
    (graph : Graph)
    (key : NodeId) :
    List Char :=
  match graph.content key with
  | .text text => text
  | _ => []

/-- The object that is made of a node of a plain document. -/
def objectOf
    (graph : Graph)
    (node : NodeId) :
    Object :=
  match graph.content node with
  | .text text =>
      .scalar ((Meaning.ofScalar (graph.tag node) text).toOption.getD .null)
  | .sequence items => .sequence items
  | .mapping entries =>
      .mapping (entries.map fun entry => (.text (graph.keyText entry.1), entry.2))

/-- The nodes that a reader of an object goes on with. -/
def partsOf
    (graph : Graph)
    (node : NodeId) :
    List NodeId :=
  match graph.content node with
  | .text _ => []
  | .sequence items => items
  | .mapping entries => entries.map Prod.snd

section

variable
    {graph : Graph}
    {node : NodeId}

theorem keyText_text
    {tag : Tag}
    {text : List Char}
    (found : graph.vertices[node]? = some ⟨tag, .text text⟩) :
    graph.keyText node = text := by
  rw [keyText, content_eq found]

theorem objectOf_text
    {tag : Tag}
    {text : List Char}
    (found : graph.vertices[node]? = some ⟨tag, .text text⟩) :
    graph.objectOf node = .scalar ((Meaning.ofScalar tag text).toOption.getD .null) := by
  rw [objectOf, content_eq found, tag_eq found]

theorem objectOf_sequence
    {tag : Tag}
    {items : List NodeId}
    (found : graph.vertices[node]? = some ⟨tag, .sequence items⟩) :
    graph.objectOf node = .sequence items := by
  rw [objectOf, content_eq found]

theorem objectOf_mapping
    {tag : Tag}
    {entries : List (NodeId × NodeId)}
    (found : graph.vertices[node]? = some ⟨tag, .mapping entries⟩) :
    graph.objectOf node =
      .mapping (entries.map fun entry => (.text (graph.keyText entry.1), entry.2)) := by
  rw [objectOf, content_eq found]

theorem partsOf_text
    {tag : Tag}
    {text : List Char}
    (found : graph.vertices[node]? = some ⟨tag, .text text⟩) :
    graph.partsOf node = [] := by
  rw [partsOf, content_eq found]

theorem partsOf_sequence
    {tag : Tag}
    {items : List NodeId}
    (found : graph.vertices[node]? = some ⟨tag, .sequence items⟩) :
    graph.partsOf node = items := by
  rw [partsOf, content_eq found]

theorem partsOf_mapping
    {tag : Tag}
    {entries : List (NodeId × NodeId)}
    (found : graph.vertices[node]? = some ⟨tag, .mapping entries⟩) :
    graph.partsOf node = entries.map Prod.snd := by
  rw [partsOf, content_eq found]

end

/-- A node is a collection of a plain document. -/
def IsCollection
    (graph : Graph)
    (node : NodeId) :
    Prop :=
  (∃ document, graph.Represents document node) ∧
    (graph.tag node = .sequence ∨ graph.tag node = .mapping)

end Graph

namespace Construction

/-! ## Meeting nodes -/

theorem object?_setObject
    (construction : Construction)
    {node : NodeId}
    (inside : node < construction.objects.size)
    (object : Object)
    (other : NodeId) :
    (construction.setObject node object).object? other =
      if other = node then some object else construction.object? other := by
  unfold object? setObject
  rw [Array.getElem?_setIfInBounds]
  by_cases same : node = other
  · subst same
    simp [inside]
  · rw [if_neg same, if_neg (Ne.symm same)]

/-- The objects that are made are final, up to the collections that wait. -/
structure Sound
    (graph : Graph)
    (pending : List NodeId)
    (construction : Construction) :
    Prop where
  graph_eq : construction.graph = graph
  size_eq : construction.objects.size = graph.vertices.size
  collections : ∀ node ∈ pending, graph.IsCollection node
  settled :
    ∀ node object,
      construction.object? node = some object →
        node ∈ pending ∨
          object = graph.objectOf node ∧
            ∀ part ∈ graph.partsOf node, (construction.object? part).isSome = true

theorem Sound.mono
    {graph : Graph}
    {pending others : List NodeId}
    {construction : Construction}
    (sound : construction.Sound graph pending)
    (same : ∀ node, node ∈ others ↔ node ∈ pending) :
    construction.Sound graph others where
  graph_eq := sound.graph_eq
  size_eq := sound.size_eq
  collections := fun node member => sound.collections node ((same node).mp member)
  settled := fun node object present =>
    (sound.settled node object present).imp_left (same node).mpr

theorem Sound.inside
    {graph : Graph}
    {pending : List NodeId}
    {construction : Construction}
    (sound : construction.Sound graph pending)
    (node : NodeId)
    (member : node ∈ pending) :
    node < graph.vertices.size := by
  obtain ⟨⟨document, represents⟩, -⟩ := sound.collections node member
  cases represents with
  | scalar found => exact Graph.lt_size found
  | sequence found => exact Graph.lt_size found
  | mapping found => exact Graph.lt_size found

/-- Nodes are met, of which some collections wait from then on. -/
structure Meets
    (graph : Graph)
    (pending : List NodeId)
    (construction : Construction)
    (nodes new : List NodeId)
    (next : Construction) :
    Prop where
  sound : next.Sound graph (new ++ pending)
  waiting : next.waiting = new ++ construction.waiting
  among : ∀ node ∈ new, node ∈ nodes
  kept :
    ∀ node object,
      construction.object? node = some object → next.object? node = some object
  met : ∀ node ∈ nodes, (next.object? node).isSome = true

section

variable
    {graph : Graph}
    {pending : List NodeId}
    {construction : Construction}

theorem Meets.nil
    (sound : construction.Sound graph pending) :
    construction.Meets graph pending [] [] construction where
  sound := sound
  waiting := rfl
  among := nofun
  kept := fun _ _ found => found
  met := nofun

theorem Meets.trans
    {nodes new others newer : List NodeId}
    {between next : Construction}
    (one : construction.Meets graph pending nodes new between)
    (two : between.Meets graph (new ++ pending) others newer next) :
    construction.Meets graph pending (nodes ++ others) (newer ++ new) next where
  sound := by
    rw [List.append_assoc]
    exact two.sound
  waiting := by rw [two.waiting, one.waiting, List.append_assoc]
  among := by
    intro node member
    rcases List.mem_append.mp member with late | early
    · exact List.mem_append_right _ (two.among node late)
    · exact List.mem_append_left _ (one.among node early)
  kept := fun node object found => two.kept node object (one.kept node object found)
  met := by
    intro node member
    rcases List.mem_append.mp member with early | late
    · obtain ⟨object, found⟩ := Option.isSome_iff_exists.mp (one.met node early)
      rw [two.kept node object found]
      rfl
    · exact two.met node late

/-- Nothing changes when a node is met again. -/
theorem meet_again
    (sound : construction.Sound graph pending)
    {node : NodeId}
    (known : (construction.object? node).isSome = true) :
    construction.meet node = .ok construction ∧
      construction.Meets graph pending [node] [] construction := by
  refine ⟨by rw [meet, if_pos known], sound, rfl, nofun, fun _ _ found => found, ?_⟩
  intro other member
  rwa [List.mem_singleton.mp member]

/-- An object is entered for a node. -/
theorem isSome_setObject
    {node : NodeId}
    (inside : node < construction.objects.size)
    (object : Object)
    {other : NodeId}
    (known : (construction.object? other).isSome = true ∨ other = node) :
    ((construction.setObject node object).object? other).isSome = true := by
  rw [object?_setObject construction inside]
  split
  · rfl
  · exact known.resolve_right ‹_›

/-- A node without an object gets one, and may wait from then on. -/
theorem meets_setObject
    (sound : construction.Sound graph pending)
    {node : NodeId}
    (inside : node < construction.objects.size)
    (unknown : construction.object? node = none)
    {object : Object}
    {new : List NodeId}
    (among : ∀ other ∈ new, other = node)
    (collections : ∀ other ∈ new, graph.IsCollection other)
    (settled :
      node ∈ new ∨ object = graph.objectOf node ∧ graph.partsOf node = []) :
    construction.Meets graph pending [node] new
      { construction.setObject node object with waiting := new ++ construction.waiting } := by
  have entered := object?_setObject construction inside object
  refine ⟨⟨sound.graph_eq, ?_, ?_, ?_⟩, rfl, ?_, ?_, ?_⟩
  · exact (Array.size_setIfInBounds ..).trans sound.size_eq
  · intro other member
    rcases List.mem_append.mp member with member | member
    · exact collections other member
    · exact sound.collections other member
  · intro other found present
    change (construction.setObject node object).object? other = some found at present
    rw [entered] at present
    split at present
    · next same =>
        subst same
        rcases settled with waits | ⟨rfl, none⟩
        · exact .inl (List.mem_append_left _ waits)
        · refine .inr ⟨(Option.some.inj present).symm, ?_⟩
          rw [none]
          nofun
    · rcases sound.settled other found present with waits | ⟨final, parts⟩
      · exact .inl (List.mem_append_right _ waits)
      · exact .inr ⟨final, fun part member =>
          isSome_setObject inside object (.inl (parts part member))⟩
  · intro other member
    exact List.mem_singleton.mpr (among other member)
  · intro other found present
    change (construction.setObject node object).object? other = some found
    rw [entered, if_neg, present]
    rintro rfl
    rw [unknown] at present
    contradiction
  · intro other member
    exact isSome_setObject inside object (.inr (List.mem_singleton.mp member))

theorem scalarOf_eq
    {node : NodeId}
    {tag : Tag}
    {text : List Char}
    (found : graph.vertices[node]? = some ⟨tag, .text text⟩) :
    scalarOf graph node = Meaning.ofScalar tag text := by
  have content := Graph.content_eq found
  have whole : graph.text node = .ok text := by
    rw [Graph.text, Graph.textOf, content]
  unfold scalarOf
  rw [whole, content, Graph.tag_eq found]
  cases tag <;> rfl

/-- A node is met as a scalar if its tag is one of scalars. -/
theorem meet_eq_setObject
    {node : NodeId}
    {tag : Tag}
    {text : List Char}
    {value : Scalar}
    (unknown : construction.object? node = none)
    (found : construction.graph.vertices[node]? = some ⟨tag, .text text⟩)
    (meaning : Meaning.ofScalar tag text = .ok value) :
    construction.meet node = .ok (construction.setObject node (.scalar value)) := by
  have scalar := scalarOf_eq found
  rw [meaning] at scalar
  rw [meet, unknown, if_neg (by simp), Graph.tag_eq found]
  -- The tags that scalars have no meaning under are the ones that are not met as scalars.
  cases tag <;> first | contradiction | (rw [scalar]; rfl)

theorem meet_scalar
    (sound : construction.Sound graph pending)
    {node : NodeId}
    {tag : Tag}
    {text : List Char}
    {value : Scalar}
    (found : graph.vertices[node]? = some ⟨tag, .text text⟩)
    (meaning : Meaning.ofScalar tag text = .ok value) :
    ∃ next,
      construction.meet node = .ok next ∧
        construction.Meets graph pending [node] [] next := by
  by_cases known : (construction.object? node).isSome = true
  · exact ⟨construction, meet_again sound known⟩
  · have unknown : construction.object? node = none := by simpa using known
    have inside : node < construction.objects.size := by
      rw [sound.size_eq]
      exact Graph.lt_size found
    refine ⟨_, meet_eq_setObject unknown (by rwa [sound.graph_eq]) meaning, ?_⟩
    refine meets_setObject sound inside unknown nofun nofun
      (.inr ⟨?_, Graph.partsOf_text found⟩)
    rw [Graph.objectOf_text found, meaning]
    rfl

theorem meet_collection
    (sound : construction.Sound graph pending)
    {node : NodeId}
    (collection : graph.IsCollection node)
    (inside : node < graph.vertices.size) :
    ∃ next new,
      construction.meet node = .ok next ∧
        construction.Meets graph pending [node] new next := by
  by_cases known : (construction.object? node).isSome = true
  · exact ⟨construction, [], meet_again sound known⟩
  · have unknown : construction.object? node = none := by simpa using known
    have met (object : Object) := @meets_setObject _ _ _ sound node (by rwa [sound.size_eq]) unknown
      object [node] (by simp) (by simpa using collection) (.inl (by simp))
    rw [meet, if_neg known, sound.graph_eq]
    rcases collection.2 with tag | tag <;> rw [tag]
    · exact ⟨_, _, rfl, met (.sequence [])⟩
    · exact ⟨_, _, rfl, met (.mapping [])⟩

/-- A part of a plain document is met. -/
theorem meet_represents
    (sound : construction.Sound graph pending)
    {document : Node}
    {node : NodeId}
    (represents : graph.Represents document node) :
    ∃ next new,
      construction.meet node = .ok next ∧
        construction.Meets graph pending [node] new next := by
  cases represents with
  | scalar found meaning =>
      obtain ⟨next, met⟩ := meet_scalar sound found meaning
      exact ⟨next, [], met⟩
  | sequence found behind parts =>
      exact meet_collection sound ⟨⟨_, .sequence found behind parts⟩, .inl (Graph.tag_eq found)⟩
        (Graph.lt_size found)
  | mapping found behind keys parts =>
      exact meet_collection sound
        ⟨⟨_, .mapping found behind keys parts⟩, .inr (Graph.tag_eq found)⟩ (Graph.lt_size found)

theorem meet_items
    (sound : construction.Sound graph pending)
    {documents : List Node}
    {items : List NodeId}
    (represents : List.Forall₂ graph.Represents documents items) :
    ∃ next new,
      items.foldlM meet construction = .ok next ∧
        construction.Meets graph pending items new next := by
  induction represents generalizing construction pending with
  | nil => exact ⟨construction, [], rfl, .nil sound⟩
  | cons first _ induction =>
      obtain ⟨between, new, met, meets⟩ := meet_represents sound first
      obtain ⟨next, newer, later, others⟩ := induction meets.sound
      refine ⟨next, newer ++ new, ?_, meets.trans others⟩
      rw [List.foldlM_cons, met]
      exact later

/-- The key of an entry is met as its text. -/
theorem object?_key
    {key : NodeId}
    {name : List Char}
    (sound : construction.Sound graph pending)
    (found : graph.vertices[key]? = some ⟨.string, .text name⟩)
    (known : (construction.object? key).isSome = true) :
    construction.object? key = some (.scalar (.text name)) := by
  obtain ⟨object, present⟩ := Option.isSome_iff_exists.mp known
  rw [present]
  rcases sound.settled key object present with waits | ⟨rfl, -⟩
  · have tag := (sound.collections key waits).2
    rw [Graph.tag_eq found] at tag
    rcases tag with tag | tag <;> contradiction
  · rw [Graph.objectOf_text found]
    rfl

theorem meetEntries_represents
    (sound : construction.Sound graph pending)
    {entries : List (List Char × Node)}
    {parts : List (NodeId × NodeId)}
    (keys :
      List.Forall₂
        (fun entry part => graph.vertices[part.1]? = some ⟨.string, .text entry.1⟩)
        entries parts)
    (values : List.Forall₂ (fun entry part => graph.Represents entry.2 part.2) entries parts) :
    ∃ next new,
      meetEntries parts construction =
          .ok (parts.map fun part => (.text (graph.keyText part.1), part.2), next) ∧
        construction.Meets graph pending (parts.flatMap fun part => [part.1, part.2]) new next := by
  induction keys generalizing construction pending with
  | nil => exact ⟨construction, [], rfl, .nil sound⟩
  | @cons entry part entries parts key _ induction =>
      obtain ⟨value, values⟩ := List.forall₂_cons.mp values
      obtain ⟨keyed, keyMet, keyMeets⟩ := meet_scalar sound key rfl
      obtain ⟨between, new, met, meets⟩ := meet_represents keyMeets.sound value
      obtain ⟨next, newer, later, others⟩ := induction (meets.sound) values
      have text := object?_key keyMeets.sound key (keyMeets.met _ (List.mem_singleton_self _))
      have named := Graph.keyText_text key
      have both := (keyMeets.trans meets).trans (by simpa using others)
      refine ⟨next, _, ?_, both⟩
      obtain ⟨keyNode, valueNode⟩ := part
      dsimp only at *
      rw [meetEntries, meetEntry, keyMet]
      simp only [bind, Except.bind, pure, Except.pure, text, met, later, List.map_cons, named]

/-! ## Filling collections -/

/-- Nothing is merged into the mappings of a plain document. -/
theorem flatten_eq
    {node : NodeId}
    {entries : List (List Char × Node)}
    {parts : List (NodeId × NodeId)}
    (found : graph.vertices[node]? = some ⟨.mapping, .mapping parts⟩)
    (keys :
      List.Forall₂
        (fun entry part => graph.vertices[part.1]? = some ⟨.string, .text entry.1⟩)
        entries parts) :
    graph.flatten node = .ok graph := by
  have own : graph.entries node = parts := by
    rw [Graph.entries, Graph.content_eq found]
  have none : graph.takeMerge? parts = none := by
    clear found own
    induction keys with
    | nil => rfl
    | cons key _ induction =>
        have tag := Graph.tag_eq key
        dsimp only at tag
        rw [Graph.takeMerge?, tag, if_neg (by decide), induction]
        rfl
  have plain : parts.foldl (fun graph entry => graph.plainKey entry.1) graph = graph := by
    clear found own none
    induction keys with
    | nil => rfl
    | cons key _ induction =>
        have tag := Graph.tag_eq key
        dsimp only at tag
        rw [List.foldl_cons, Graph.plainKey, tag, if_neg (by decide), induction]
  have same : graph.setContent node (.mapping parts) = graph := by
    rw [Graph.setContent]
    congr 1
    refine Array.ext_getElem? fun other => ?_
    rw [Array.getElem?_modify]
    split
    · next same =>
        rw [← same, found]
        rfl
    · rfl
  rw [Graph.flatten, Graph.mergeFrom, own, none]
  dsimp only
  rw [Graph.settle, own, plain, List.nil_append, same]

/-- Some collections are filled, after which others wait that come behind them. -/
structure Fills
    (graph : Graph)
    (pending : List NodeId)
    (construction : Construction)
    (nodes new : List NodeId)
    (next : Construction) :
    Prop where
  sound : next.Sound graph (new ++ pending)
  waiting : next.waiting = new ++ construction.waiting
  behind : ∀ part ∈ new, ∃ node ∈ nodes, node < part
  kept :
    ∀ node, (construction.object? node).isSome = true → (next.object? node).isSome = true

/-- A collection is filled when its parts have been met. -/
theorem fills_setObject
    {node : NodeId}
    {parts new : List NodeId}
    {between : Construction}
    (meets : construction.Meets graph (node :: pending) parts new between)
    (inside : node < graph.vertices.size)
    (behind : ∀ part ∈ parts, node < part)
    (all : ∀ part ∈ graph.partsOf node, part ∈ parts) :
    construction.Fills graph pending [node] new
      (between.setObject node (graph.objectOf node)) := by
  have size := meets.sound.size_eq
  have entered := object?_setObject between (by rwa [size]) (graph.objectOf node)
  have known {other : NodeId} (found : (between.object? other).isSome = true) :=
    isSome_setObject (by rwa [size]) (graph.objectOf node) (.inl found)
  refine ⟨⟨meets.sound.graph_eq, ?_, ?_, ?_⟩, meets.waiting, ?_, ?_⟩
  · exact (Array.size_setIfInBounds ..).trans size
  · intro other member
    refine meets.sound.collections other ?_
    simp only [List.mem_append, List.mem_cons] at member ⊢
    tauto
  · intro other object present
    rw [entered] at present
    split at present
    · next same =>
        subst same
        exact .inr ⟨(Option.some.inj present).symm, fun part member =>
          known (meets.met part (all part member))⟩
    · next different =>
        rcases meets.sound.settled other object present with waits | ⟨final, found⟩
        · left
          simp only [List.mem_append, List.mem_cons] at waits ⊢
          tauto
        · exact .inr ⟨final, fun part member => known (found part member)⟩
  · intro part member
    exact ⟨node, List.mem_singleton_self _, behind part (meets.among part member)⟩
  · intro other found
    obtain ⟨object, present⟩ := Option.isSome_iff_exists.mp found
    refine known ?_
    rw [meets.kept other object present]
    rfl

theorem fill_collection
    {node : NodeId}
    (sound : construction.Sound graph (node :: pending)) :
    ∃ next new,
      construction.fill node = .ok next ∧ construction.Fills graph pending [node] new next := by
  obtain ⟨⟨document, represents⟩, collection⟩ := sound.collections node List.mem_cons_self
  cases represents with
  | scalar found meaning =>
      -- A scalar with the tag of a collection has no meaning.
      rw [Graph.tag_eq found] at collection
      dsimp only at collection
      rcases collection with tag | tag <;> rw [tag] at meaning <;> contradiction
  | sequence found behind items =>
      rename_i parts
      obtain ⟨between, new, met, meets⟩ := meet_items sound items
      refine ⟨_, new, ?_, fills_setObject meets (Graph.lt_size found) behind ?_⟩
      · rw [fill, sound.graph_eq, Graph.tag_eq found, Graph.content_eq found,
          Graph.objectOf_sequence found]
        simp only [bind, Except.bind, pure, Except.pure, met]
      · rw [Graph.partsOf_sequence found]
        exact fun _ member => member
  | mapping found behind keys values =>
      rename_i entries parts
      obtain ⟨between, new, met, meets⟩ := meetEntries_represents sound keys values
      refine ⟨_, new, ?_, fills_setObject meets (Graph.lt_size found) ?_ ?_⟩
      · have own : graph.entries node = parts := by
          rw [Graph.entries, Graph.content_eq found]
        have same : { construction with graph } = construction := by
          rw [← sound.graph_eq]
        rw [fill, sound.graph_eq, Graph.tag_eq found, fillMapping, sound.graph_eq,
          Graph.content_eq found, Graph.objectOf_mapping found]
        simp only [bind, Except.bind, pure, Except.pure, flatten_eq found keys, own, same, met]
      · intro part member
        obtain ⟨pair, among, either⟩ := List.mem_flatMap.mp member
        have := behind pair among
        rcases List.mem_pair.mp either with rfl | rfl
        · exact this.1
        · exact this.2
      · rw [Graph.partsOf_mapping found]
        intro part member
        obtain ⟨pair, among, rfl⟩ := List.mem_map.mp member
        exact List.mem_flatMap.mpr ⟨pair, among, List.mem_pair.mpr (.inr rfl)⟩

theorem fill_level
    {queue : List NodeId}
    (sound : construction.Sound graph (queue ++ pending)) :
    ∃ next new,
      queue.foldlM fill construction = .ok next ∧
        construction.Fills graph pending queue new next := by
  induction queue generalizing construction pending with
  | nil =>
      exact ⟨construction, [], rfl, sound, rfl, nofun, fun _ found => found⟩
  | cons node queue induction =>
      obtain ⟨between, new, filled, one⟩ := fill_collection sound
      have rest : between.Sound graph (queue ++ (new ++ pending)) :=
        one.sound.mono (by
          intro other
          change _ ↔ other ∈ new ++ (queue ++ pending)
          simp only [List.mem_append]
          tauto)
      obtain ⟨next, newer, later, others⟩ := induction rest
      refine ⟨next, newer ++ new, ?_, ?_, ?_, ?_, ?_⟩
      · rw [List.foldlM_cons, filled]
        exact later
      · rw [List.append_assoc]
        exact others.sound
      · rw [others.waiting, one.waiting, List.append_assoc]
      · intro part member
        rcases List.mem_append.mp member with late | early
        · obtain ⟨before, among, less⟩ := others.behind part late
          exact ⟨before, List.mem_cons_of_mem _ among, less⟩
        · obtain ⟨before, among, less⟩ := one.behind part early
          exact ⟨before, by simp [List.mem_singleton.mp among], less⟩
      · exact fun other found => others.kept other (one.kept other found)

end

/-- There are enough levels, because what waits comes further behind at every level. -/
theorem fillAll_sound
    {graph : Graph}
    {construction : Construction}
    (levels : Nat)
    (sound : construction.Sound graph construction.waiting)
    (enough : ∀ node ∈ construction.waiting, graph.vertices.size ≤ node + levels) :
    ∃ next,
      fillAll levels construction = .ok next ∧ next.Sound graph [] ∧
        ∀ node, (construction.object? node).isSome = true → (next.object? node).isSome = true := by
  induction levels generalizing construction with
  | zero =>
      have none : construction.waiting = [] := by
        refine List.eq_nil_iff_forall_not_mem.mpr fun node member => ?_
        exact absurd (enough node member) (Nat.not_le.mpr (sound.inside node member))
      rw [none] at sound
      exact ⟨construction, rfl, sound, fun _ found => found⟩
  | succ levels induction =>
      rw [fillAll]
      by_cases none : construction.waiting = []
      · rw [none] at sound
        rw [none, if_pos List.isEmpty_nil]
        exact ⟨construction, rfl, sound, fun _ found => found⟩
      · have queued : Sound graph (construction.waiting.reverse ++ [])
            { construction with waiting := [] } := by
          have same := @Sound.mono _ _ (construction.waiting.reverse ++ []) _ sound (by simp)
          exact ⟨same.graph_eq, same.size_eq, same.collections, same.settled⟩
        obtain ⟨between, new, filled, fills⟩ := fill_level queued
        have waiting : between.waiting = new := by
          rw [fills.waiting, List.append_nil]
        obtain ⟨next, rest, final, kept⟩ := induction
          (by rw [waiting]; simpa using fills.sound)
          (by
            intro part member
            rw [waiting] at member
            obtain ⟨node, among, less⟩ := fills.behind part member
            calc graph.vertices.size
                ≤ node + (levels + 1) := enough node (List.mem_reverse.mp among)
              _ = node + 1 + levels := by rw [Nat.add_assoc, Nat.add_comm 1]
              _ ≤ part + levels := Nat.add_le_add_right less levels)
        refine ⟨next, ?_, final, fun node found => kept node (fills.kept node found)⟩
        rw [if_neg (by simpa using none)]
        simp only [bind, Except.bind, filled, rest]

/-- Everything is made of the graph of a plain document, beginning with the document. -/
theorem ofGraph_sound
    {graph : Graph}
    {document : Node}
    (represents : graph.Represents document 0) :
    ∃ construction,
      ofGraph graph = .ok construction ∧ construction.Sound graph [] ∧
        (construction.object? 0).isSome = true := by
  have empty (node : NodeId) :
      object? ⟨graph, (List.replicate graph.vertices.size none).toArray, []⟩ node = none := by
    unfold object?
    rw [List.getElem?_toArray, List.getElem?_replicate]
    split <;> rfl
  have initial : Sound graph []
      ⟨graph, (List.replicate graph.vertices.size none).toArray, []⟩ :=
    ⟨rfl, by simp, nofun, fun node object present => by
      rw [empty] at present
      contradiction⟩
  obtain ⟨between, new, met, meets⟩ := meet_represents initial represents
  have waiting : between.waiting = new := by
    rw [meets.waiting, List.append_nil]
  obtain ⟨construction, filled, sound, kept⟩ := fillAll_sound (graph.vertices.size + 1)
    (by rw [waiting]; simpa using meets.sound)
    (fun node _ => Nat.le_trans (Nat.le_succ _) (Nat.le_add_left _ node))
  refine ⟨construction, ?_, sound, kept 0 (meets.met 0 (List.mem_singleton_self 0))⟩
  unfold ofGraph
  simp only [bind, Except.bind, met, filled]

end Construction

/-! ## Values -/

/--
The value of a plain document, unfolded through a number of collections; the
collections inside these are left empty.
-/
def Node.plainValue : Nat → Node → Value
  | _, .scalar properties plain text =>
      .scalar ((Meaning.ofScalar (Tag.ofScalar properties plain text) text).toOption.getD .null)
  | _, .alias _ => .null
  | 0, .sequence _ _ => .sequence []
  | 0, .mapping _ _ => .mapping []
  | depth + 1, .sequence _ items => .sequence (items.map (plainValue depth))
  | depth + 1, .mapping _ entries =>
      .mapping
        (Entries.insertAll []
          (entries.map fun entry => (.text (textOf entry.1), plainValue depth entry.2)))
where
  textOf : Node → List Char
    | .scalar _ _ text => text
    | _ => []

namespace Construction

/-- When nothing waits, every object is final. -/
theorem Sound.final
    {graph : Graph}
    {construction : Construction}
    (sound : construction.Sound graph [])
    {node : NodeId}
    (known : (construction.object? node).isSome = true) :
    construction.object? node = some (graph.objectOf node) ∧
      ∀ part ∈ graph.partsOf node, (construction.object? part).isSome = true := by
  obtain ⟨object, present⟩ := Option.isSome_iff_exists.mp known
  obtain ⟨rfl, met⟩ := (sound.settled node object present).resolve_left List.not_mem_nil
  exact ⟨present, met⟩

/-- The objects of a plain document unfold to its value. -/
theorem value_represents
    {graph : Graph}
    {construction : Construction}
    (sound : construction.Sound graph [])
    (depth : Nat)
    {document : Node}
    {node : NodeId}
    (represents : graph.Represents document node)
    (known : (construction.object? node).isSome = true) :
    construction.value depth node = document.plainValue depth := by
  induction depth generalizing document node with
  | zero =>
      rw [value, (sound.final known).1]
      cases represents with
      | scalar found =>
          rw [Graph.objectOf_text found]
          rfl
      | sequence found =>
          rw [Graph.objectOf_sequence found]
          rfl
      | mapping found =>
          rw [Graph.objectOf_mapping found]
          rfl
  | succ depth induction =>
      obtain ⟨present, met⟩ := sound.final known
      rw [value, present]
      cases represents with
      | scalar found =>
          rw [Graph.objectOf_text found]
          rfl
      | sequence found behind items =>
          rw [Graph.partsOf_sequence found] at met
          rw [Graph.objectOf_sequence found, Node.plainValue]
          dsimp only
          congr 1
          clear present found behind
          induction items with
          | nil => rfl
          | cons item _ others =>
              rw [List.map_cons, List.map_cons, induction item (met _ List.mem_cons_self),
                others fun part member => met part (List.mem_cons_of_mem _ member)]
      | mapping found behind keys values =>
          rw [Graph.partsOf_mapping found] at met
          rw [Graph.objectOf_mapping found, Node.plainValue]
          dsimp only
          congr 2
          clear present found behind
          induction keys with
          | nil => rfl
          | @cons entry part entries parts key _ others =>
              obtain ⟨value, values⟩ := List.forall₂_cons.mp values
              have named := Graph.keyText_text key
              have rest := others
                (fun part member => met part (List.mem_cons_of_mem _ member)) values
              rw [List.map_cons, List.map_cons, rest, named,
                induction value (met _ List.mem_cons_self)]
              rfl

end Construction

theorem Value.ofNode_eq_plainValue
    {document : Node}
    (addable : Graph.IsAddable document) :
    Value.ofNode document = .ok (document.plainValue reach) := by
  have represents := Graph.represents_ofNode addable
  obtain ⟨construction, made, sound, known⟩ := Construction.ofGraph_sound represents
  unfold Value.ofNode
  rw [made]
  exact congrArg Except.ok (Construction.value_represents sound reach represents known)

end Delimit.Yaml
