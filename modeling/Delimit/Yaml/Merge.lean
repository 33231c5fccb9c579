import Delimit.Yaml.Graph

/-!
# Merge keys

A merge key stands for the entries of the mapping under it, or of all the mappings
in the sequence under it.  Entries that are merged in come before the own entries of
a mapping, so the own ones win; of the mappings in a sequence the earlier ones win,
and of several merge keys the later ones.  The mappings under a merge key are
treated in the same way first.

A key of a default value that is found on the way is a plain text from then on.
-/

namespace Delimit.Yaml.Graph

/-- The value of the first merge key among entries, and the entries without it. -/
def takeMerge?
    (graph : Graph) :
    List (NodeId × NodeId) → Option (NodeId × List (NodeId × NodeId))
  | [] => none
  | (key, value) :: rest =>
      if graph.tag key == .merge then
        some (value, rest)
      else
        (graph.takeMerge? rest).map fun (source, others) => (source, (key, value) :: others)

/-- Makes a key of a default value a plain text. -/
def plainKey
    (graph : Graph)
    (key : NodeId) :
    Graph :=
  if graph.tag key == .defaultValue then graph.setTag key .string else graph

/-- Puts merged entries in front of the entries of a mapping that has no merge keys left. -/
def settle
    (graph : Graph)
    (node : NodeId)
    (merged : List (NodeId × NodeId)) :
    Graph :=
  let own := graph.entries node
  let plain := own.foldl (fun graph entry => graph.plainKey entry.1) graph
  plain.setContent node (.mapping (merged ++ own))

/--
Replaces the merge keys of a mapping, given the entries that its earlier merge keys
stood for.  Every merge key is taken out before the mappings under it are looked at,
so a mapping that merges itself comes to an end.
-/
def mergeFrom : Nat → NodeId → List (NodeId × NodeId) → Graph → Except Fault Graph
  | 0, _, _, _ => .error (.breakdown .tooDeep)
  | fuel + 1, node, merged, graph =>
      match graph.takeMerge? (graph.entries node) with
      | none => .ok (graph.settle node merged)
      | some (source, others) => do
          let graph := graph.setContent node (.mapping others)
          match graph.content source with
          | .text _ => throw .badValue
          | .mapping _ =>
              let graph ← mergeFrom fuel source [] graph
              mergeFrom fuel node (merged ++ graph.entries source) graph
          | .sequence items =>
              let (found, graph) ← items.foldlM
                (fun (found, graph) item =>
                  match graph.content item with
                  | .mapping _ => do
                      let graph ← mergeFrom fuel item [] graph
                      return (graph.entries item ++ found, graph)
                  | _ => throw .badValue)
                ([], graph)
              mergeFrom fuel node (merged ++ found) graph

/-- Replaces the merge keys of a mapping by the entries that they stand for. -/
def flatten
    (graph : Graph)
    (node : NodeId) :
    Except Fault Graph :=
  mergeFrom (graph.entryCount + 2) node [] graph

end Delimit.Yaml.Graph
