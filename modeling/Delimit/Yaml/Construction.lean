import Delimit.Yaml.Meaning
import Delimit.Yaml.Merge
import Delimit.Yaml.Value

/-!
# The values of documents

An object is made of every node that is met, once, so that a node with several names
is one object.  A scalar becomes an object at once.  A collection begins as an empty
object and waits; it is filled after everything that waited before it, and meets its
parts in their order.  So collections are opened level by level, and of several
faults in a document the first one on this way counts.

What a node becomes depends on its tag alone; whether its content fits the tag is
looked at when it is filled.  The keys of mappings have to be scalars.
-/

namespace Delimit.Yaml

/-- What is made of a node; the parts of collections are given by their nodes. -/
inductive Object where
  | scalar (value : Scalar)
  | sequence (items : List NodeId)
  /-- A mapping; of entries with the same key the last one counts. -/
  | mapping (entries : List (Scalar × NodeId))
  | set (elements : List Scalar)
  | pairs (entries : List (NodeId × NodeId))
  deriving DecidableEq, Repr

/-- Where the making of objects stands. -/
structure Construction where
  graph : Graph
  /-- The objects of the nodes that were met. -/
  objects : Array (Option Object)
  /-- The collections that wait to be filled, the last one first. -/
  waiting : List NodeId := []
  deriving Repr

namespace Construction

/-- The object of a node that was met. -/
def object?
    (construction : Construction)
    (node : NodeId) :
    Option Object :=
  (construction.objects[node]?).join

def setObject
    (construction : Construction)
    (node : NodeId)
    (object : Object) :
    Construction :=
  { construction with
    objects := construction.objects.setIfInBounds node (some object) }

/-- Enters an empty collection and lets it wait. -/
def defer
    (construction : Construction)
    (node : NodeId)
    (object : Object) :
    Construction :=
  let entered := construction.setObject node object
  { entered with waiting := node :: entered.waiting }

/-- The scalar that a node with a tag of scalars stands for. -/
def scalarOf
    (graph : Graph)
    (node : NodeId) :
    Except Fault Scalar := do
  let text ← graph.text node
  match graph.tag node, graph.content node with
  | .timestamp, .mapping _ => throw (.breakdown .notText)
  | tag, _ => Meaning.ofScalar tag text

/-- Meets a node: makes its object, unless it has one. -/
def meet
    (construction : Construction)
    (node : NodeId) :
    Except Fault Construction :=
  if (construction.object? node).isSome then
    .ok construction
  else
    match construction.graph.tag node with
    | .sequence => .ok (construction.defer node (.sequence []))
    | .mapping => .ok (construction.defer node (.mapping []))
    | .set => .ok (construction.defer node (.set []))
    | .orderedMap | .pairs => .ok (construction.defer node (.pairs []))
    | .merge | .defaultValue | .unknown => .error .badValue
    | _ => do
        let value ← scalarOf construction.graph node
        return construction.setObject node (.scalar value)

/-- Meets the key and the value of an entry of a mapping; the key has to be a scalar. -/
def meetEntry
    (construction : Construction)
    (key value : NodeId) :
    Except Fault (Scalar × Construction) := do
  let construction ← construction.meet key
  match construction.object? key with
  | some (.scalar scalar) => return (scalar, ← construction.meet value)
  | _ => throw .badValue

def meetEntries :
    List (NodeId × NodeId) →
    Construction →
    Except Fault (List (Scalar × NodeId) × Construction)
  | [], construction => .ok ([], construction)
  | (key, value) :: rest, construction => do
      let (scalar, construction) ← construction.meetEntry key value
      let (rest, construction) ← meetEntries rest construction
      return ((scalar, value) :: rest, construction)

/-- Meets the parts of single entries, which are mappings of one entry each. -/
def meetPairs :
    List NodeId →
    Construction →
    Except Fault (List (NodeId × NodeId) × Construction)
  | [], construction => .ok ([], construction)
  | item :: rest, construction =>
      match construction.graph.content item with
      | .mapping [(key, value)] => do
          let construction ← construction.meet key
          let construction ← construction.meet value
          let (rest, construction) ← meetPairs rest construction
          return ((key, value) :: rest, construction)
      | _ => .error .badValue

/-- The entries of a mapping, when merge keys are replaced and all parts are met. -/
def fillMapping
    (construction : Construction)
    (node : NodeId) :
    Except Fault (List (Scalar × NodeId) × Construction) :=
  match construction.graph.content node with
  | .mapping _ => do
      let graph ← construction.graph.flatten node
      meetEntries (graph.entries node) { construction with graph }
  | _ => .error .badValue

def fill
    (construction : Construction)
    (node : NodeId) :
    Except Fault Construction :=
  match construction.graph.tag node with
  | .mapping => do
      let (entries, construction) ← construction.fillMapping node
      return construction.setObject node (.mapping entries)
  | .set => do
      let (entries, construction) ← construction.fillMapping node
      return construction.setObject node (.set (entries.map Prod.fst))
  | .sequence =>
      match construction.graph.content node with
      | .sequence items => do
          let construction ← items.foldlM meet construction
          return construction.setObject node (.sequence items)
      | _ => .error .badValue
  | _ =>
      match construction.graph.content node with
      | .sequence items => do
          let (pairs, construction) ← meetPairs items construction
          return construction.setObject node (.pairs pairs)
      | _ => .error .badValue

/-- Fills the collections that wait, level by level, through a number of levels at most. -/
def fillAll : Nat → Construction → Except Fault Construction
  | 0, construction => .ok construction
  | levels + 1, construction =>
      if construction.waiting.isEmpty then
        .ok construction
      else do
        let emptied := { construction with waiting := [] }
        fillAll levels (← construction.waiting.reverse.foldlM fill emptied)

/-- The objects of a graph.  There are no more levels than nodes. -/
def ofGraph
    (graph : Graph) :
    Except Fault Construction := do
  let size := graph.vertices.size
  let construction : Construction :=
    { graph, objects := (List.replicate size none).toArray }
  fillAll (size + 1) (← construction.meet 0)

/-! ## Values of objects -/

/-- The value of an object with collections left empty. -/
def outline : Object → Value
  | .scalar value => .scalar value
  | .sequence _ | .pairs _ => .sequence []
  | .mapping _ => .mapping []
  | .set _ => .set []

/--
The value of a node, unfolded through a number of collections; the collections
inside these are left empty.
-/
def value
    (construction : Construction) :
    Nat → NodeId → Value
  | 0, node => ((construction.object? node).map outline).getD .null
  | depth + 1, node =>
      match construction.object? node with
      | some (.scalar value) => .scalar value
      | some (.sequence items) => .sequence (items.map (construction.value depth))
      | some (.mapping entries) =>
          .mapping
            (Entries.insertAll []
              (entries.map fun (key, node) => (key, construction.value depth node)))
      | some (.set elements) =>
          .set
            ((Entries.insertAll []
              (elements.map fun element => (element, Value.null))).map Prod.fst)
      | some (.pairs entries) =>
          .sequence
            (entries.map fun (key, node) =>
              .sequence [construction.value depth key, construction.value depth node])
      | none => .null

end Construction

namespace Value

/--
The depth that values of documents are unfolded to.  Readers of values look at the
fields of the mappings in a list under a key, which is three collections deep.  A
bound keeps the value of a document finite that contains itself, and the value of a
document small whose aliases multiply its size.
-/
def reach : Nat := 3

/-- The value of a document, as deep as readers of values look. -/
def ofNode
    (node : Node) :
    Except Fault Value := do
  let construction ← Construction.ofGraph (.ofNode node)
  return construction.value reach 0

end Value

end Delimit.Yaml
