import TypedClient.Yaml.Graph.Basic

/-!
Merge keys. A merge key takes the entries of another mapping, or of several ones, in front of the
entries of its mapping, so that an own entry wins; of several mappings the first wins. The mappings
that are taken in lose their own merge keys first. In a mapping that has been looked through like
this, the keys that stand for the value of their mapping are texts.
-/

namespace TypedClient.Yaml.Graph

/-- The number of entries with merge keys at all places. -/
def mergeCount (graph : Graph) : Nat :=
  graph.nodes.foldl (fun count node =>
    match node.content with
    | .mapping entries => count + (entries.countP fun entry => graph.tag entry.1 = .merge)
    | _ => count) 0

/-- Takes the entry at an index out of the mapping at a place. -/
def eraseEntry (graph : Graph) (place index : Nat) : Graph :=
  graph.setContent place (.mapping ((graph.entries place).eraseIdx index))

/-- Puts entries in front of those of the mapping at a place. -/
def prependEntries (graph : Graph) (place : Nat) (taken : List (Nat × Nat)) : Graph :=
  if taken.isEmpty then graph
  else graph.setContent place (.mapping (taken ++ graph.entries place))

/-- A key that stands for the value of its mapping becomes a text. -/
def settleKey (graph : Graph) (key : Nat) : Graph :=
  if graph.tag key = .value then graph.setTag key .text else graph

/-- The places of the mappings that the value of a merge key names. -/
def mergeSources (graph : Graph) (value : Nat) : Except Fault (List Nat) :=
  match (graph.node value).content with
  | .mapping _ => .ok [value]
  | .sequence items => .ok items
  | .scalar _ => .error (.malformed .badMerge)

mutual

/-- Merges from an index of the mapping at a place on. The entries that are taken in so far come in
front of the mapping at its end. A mapping may take in one that it stands in, so what remains from
the index on is looked up anew behind every merge key; there are at most `merges` of them. -/
def mergeFrom (merges place index : Nat) (taken remaining : List (Nat × Nat)) (graph : Graph) :
    Except Fault Graph :=
  match remaining with
  | [] => .ok (graph.prependEntries place taken)
  | (key, value) :: rest =>
    if graph.tag key = .merge then
      match merges with
      | 0 => .ok graph
      | merges + 1 => do
        let sources ← graph.mergeSources value
        let (found, graph) ← mergeAll merges sources [] (graph.eraseEntry place index)
        let remaining := (graph.entries place).drop index
        mergeFrom merges place index (taken ++ found) remaining graph
    else mergeFrom merges place (index + 1) taken rest (graph.settleKey key)
termination_by (merges, 0, remaining.length)

/-- Merges in mappings one after another. Their entries are put in front of those that were found
before. -/
def mergeAll (merges : Nat) (sources : List Nat) (found : List (Nat × Nat)) (graph : Graph) :
    Except Fault (List (Nat × Nat) × Graph) :=
  match sources with
  | [] => .ok (found, graph)
  | source :: rest =>
    match (graph.node source).content with
    | .mapping entries => do
      let graph ← mergeFrom merges source 0 [] entries graph
      mergeAll merges rest (graph.entries source ++ found) graph
    | _ => .error (.malformed .badMerge)
termination_by (merges, 1, sources.length)

end

/-- Merges in the mapping at a place of a graph with at most `merges` merge keys. -/
def merge (merges : Nat) (graph : Graph) (place : Nat) : Except Fault Graph :=
  mergeFrom merges place 0 [] (graph.entries place) graph

end TypedClient.Yaml.Graph
