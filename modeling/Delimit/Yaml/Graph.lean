import Delimit.Yaml.Tag

/-!
# Graphs of nodes

The nodes of a document form a graph once every alias is the node that it names; a
node that names itself from inside is a part of itself.  Nodes are numbered in the
order in which they begin, so the whole document is the first one.

The tags of nodes and the entries of mappings change while values are made of them:
merge keys give way to the entries that they stand for.
-/

namespace Delimit.Yaml

/-- The number of a node in its graph. -/
abbrev NodeId := Nat

/-- What a node of a graph consists of. -/
inductive Content where
  | text (text : List Char)
  | sequence (items : List NodeId)
  /-- The entries of a mapping, as they stand in the document or were merged in. -/
  | mapping (entries : List (NodeId × NodeId))
  deriving DecidableEq, Repr

structure Vertex where
  tag : Tag
  content : Content
  deriving DecidableEq, Repr

structure Graph where
  /-- The nodes in the order in which they begin. -/
  vertices : Array Vertex := #[]
  /-- The nodes that carry an anchor. -/
  anchors : List (List Char × NodeId) := []
  /-- The number of entries that the mappings of the document have. -/
  entryCount : Nat := 0
  deriving Repr

namespace Graph

def tag
    (graph : Graph)
    (node : NodeId) :
    Tag :=
  match graph.vertices[node]? with
  | some vertex => vertex.tag
  | none => .unknown

def content
    (graph : Graph)
    (node : NodeId) :
    Content :=
  match graph.vertices[node]? with
  | some vertex => vertex.content
  | none => .text []

/-- The entries of a mapping, none for another node. -/
def entries
    (graph : Graph)
    (node : NodeId) :
    List (NodeId × NodeId) :=
  match graph.content node with
  | .mapping entries => entries
  | _ => []

def setTag
    (graph : Graph)
    (node : NodeId)
    (tag : Tag) :
    Graph :=
  { graph with
    vertices := graph.vertices.modify node fun vertex => { vertex with tag } }

def setContent
    (graph : Graph)
    (node : NodeId)
    (content : Content) :
    Graph :=
  { graph with
    vertices := graph.vertices.modify node fun vertex => { vertex with content } }

/-! ## From documents to graphs -/

/-- Adds a node, which may carry an anchor. -/
def push
    (graph : Graph)
    (anchor? : Option (List Char))
    (vertex : Vertex) :
    NodeId × Graph :=
  let node := graph.vertices.size
  let anchors :=
    match anchor? with
    | some anchor => (anchor, node) :: graph.anchors
    | none => graph.anchors
  (node, { graph with vertices := graph.vertices.push vertex, anchors })

def named
    (graph : Graph)
    (name : List Char) :
    NodeId :=
  (graph.anchors.lookup name).getD 0

def collectionTag
    (properties : Properties)
    (default : Tag) :
    Tag :=
  (properties.tag?.map Tag.ofFullName).getD default

mutual

/-- Adds the nodes of a document, of which the first one is given back. -/
def add : Node → Graph → NodeId × Graph
  | .scalar properties plain text, graph =>
      graph.push properties.anchor? ⟨Tag.ofScalar properties plain text, .text text⟩
  | .alias name, graph => (graph.named name, graph)
  | .sequence properties items, graph =>
      let tag := collectionTag properties .sequence
      let (node, graph) := graph.push properties.anchor? ⟨tag, .sequence []⟩
      let (items, graph) := addItems items graph
      (node, graph.setContent node (.sequence items))
  | .mapping properties entries, graph =>
      let tag := collectionTag properties .mapping
      let (node, graph) := graph.push properties.anchor? ⟨tag, .mapping []⟩
      let (entries, graph) := addEntries entries graph
      (node, graph.setContent node (.mapping entries))

/-- Adds the nodes of the items of a sequence. -/
def addItems : List Node → Graph → List NodeId × Graph
  | [], graph => ([], graph)
  | item :: rest, graph =>
      let (item, graph) := add item graph
      let (rest, graph) := addItems rest graph
      (item :: rest, graph)

/-- Adds the nodes of the entries of a mapping. -/
def addEntries : List (Node × Node) → Graph → List (NodeId × NodeId) × Graph
  | [], graph => ([], graph)
  | (key, value) :: rest, graph =>
      let (key, graph) := add key graph
      let (value, graph) := add value graph
      let graph := { graph with entryCount := graph.entryCount + 1 }
      let (rest, graph) := addEntries rest graph
      ((key, value) :: rest, graph)

end

def ofNode
    (node : Node) :
    Graph :=
  (add node {}).2

/-! ## Texts of nodes -/

/--
The text of a node: that of a scalar, or for a mapping that of its default entry,
followed through a number of mappings at most.
-/
def textOf
    (graph : Graph) :
    Nat → NodeId → Except Fault (List Char)
  | 0, _ => .error (.breakdown .tooDeep)
  | fuel + 1, node =>
      match graph.content node with
      | .text text => .ok text
      | .sequence _ => .error .badValue
      | .mapping entries =>
          match entries.find? fun entry => graph.tag entry.1 == .defaultValue with
          | some (_, value) => graph.textOf fuel value
          | none => .error .badValue

/-- The text of a node.  More mappings than there are nodes are a circle. -/
def text
    (graph : Graph)
    (node : NodeId) :
    Except Fault (List Char) :=
  graph.textOf (graph.vertices.size + 1) node

end Graph

end Delimit.Yaml
