import TypedClient.Value.Equality
import TypedClient.Yaml.Graph.Merge
import TypedClient.Yaml.Scalar

/-!
What the nodes of a document stand for. Every node stands for one object, however often it is named.
Keys are scalars.

Objects are made level by level: first the members of a collection, then the members of these. Of
several faults the first one in this order counts; the merge keys of a mapping come before its
entries.
-/

namespace TypedClient.Yaml

/-- The objects made so far by their places. -/
structure Building where
  graph : Graph
  /-- There are at most so many merge keys. -/
  merges : Nat
  objects : Array (Option Object)
  /-- The collections whose members are not made yet, the last one first. -/
  waiting : List Nat

abbrev Making := StateT Building (Except Fault)

namespace Building

/-- Nothing is made. -/
def ofGraph (graph : Graph) : Building where
  graph
  merges := graph.mergeCount
  objects := Array.replicate graph.nodes.size none
  waiting := []

def object? (building : Building) (place : Nat) : Option Object :=
  building.objects.getD place none

def put (building : Building) (place : Nat) (object : Object) : Building :=
  { building with objects := building.objects.setIfInBounds place object }

end Building

namespace Making

def put (place : Nat) (object : Object) : Making Unit :=
  modify fun building => building.put place object

/-- The object without members that a collection tag asks for. -/
def emptyObject? : Tag → Option Object
  | .sequence => some (.list [])
  | .mapping => some (.mapping [])
  | .set => some (.set [])
  | .orderedMapping | .pairs => some (.pairs [])
  | _ => none

/-- The fault of a node that has a tag for another kind of node. -/
def wrongKind (tag : Tag) : Fault :=
  .malformed (.wrongKind tag.name)

/-- The text that stands for a node as a scalar: a mapping may have an entry with its value. The
value may be a mapping again, at most so many times as there are nodes. -/
def scalarText? (graph : Graph) : Nat → Nat → Option String
  | 0, _ => none
  | fuel + 1, place =>
    match (graph.node place).content with
    | .scalar text => some text
    | .sequence _ => none
    | .mapping entries => do
      let entry ← entries.find? fun entry => graph.tag entry.1 = .value
      scalarText? graph fuel entry.2

def ensureDateForm (node : Node) : Except Fault Unit :=
  match node.tag, node.content with
  | .stamp, .mapping _ => .error (.misfit .dateWithEntries)
  | _, _ => .ok ()

def scalarValue (graph : Graph) (place : Nat) : Except Fault Atom := do
  let node := graph.node place
  if let .other name := node.tag then .error (.malformed (.unknownTag name))
  match scalarText? graph graph.nodes.size place with
  | some text => do
    ensureDateForm node
    Scalar.value place node.tag text
  | none => .error (wrongKind node.tag)

/-- Makes the object at a place, if it is not made yet. The members of a collection have to wait. -/
def make (place : Nat) : Making Unit := do
  let building ← get
  if (building.object? place).isSome then return
  match emptyObject? (building.graph.tag place) with
  | some object => set { building.put place object with waiting := place :: building.waiting }
  | none =>
    let atom ← scalarValue building.graph place
    put place (.plain atom)

/-- Makes a key, which is a scalar. -/
def makeKey (place : Nat) : Making Atom := do
  make place
  match (← get).object? place with
  | some (.plain atom) => return atom
  | _ => throw (.malformed .compositeKey)

def makeEntry (entry : Nat × Nat) : Making (Atom × Nat) := do
  let key ← makeKey entry.1
  make entry.2
  return (key, entry.2)

/-- Makes the entries of the mapping at a place. Of equal keys the last one counts. -/
def makeEntries (place : Nat) (tag : Tag) : Making (List (Atom × Nat)) := do
  let building ← get
  match (building.graph.node place).content with
  | .mapping _ => do
    let graph ← Graph.merge building.merges building.graph place
    set { building with graph }
    let entries ← (graph.entries place).mapM makeEntry
    return collapse (fun key other => Value.sameScalar key.value other.value) entries
  | _ => throw (wrongKind tag)

/-- Makes the entry that is the only one of the mapping at a place. -/
def makePair (tag : Tag) (place : Nat) : Making (Nat × Nat) := do
  match ((← get).graph.node place).content with
  | .mapping [(key, value)] => do
    make key
    make value
    return (key, value)
  | _ => throw (wrongKind tag)

/-- The members of the sequence at a place. -/
def itemsOf (place : Nat) (tag : Tag) : Making (List Nat) := do
  match ((← get).graph.node place).content with
  | .sequence items => return items
  | _ => throw (wrongKind tag)

def makeMembers (place : Nat) : Making Unit := do
  match (← get).graph.tag place with
  | .sequence => do
    let items ← itemsOf place .sequence
    items.forM make
    put place (.list items)
  | .mapping => do put place (.mapping (← makeEntries place .mapping))
  | .set => do put place (.set ((← makeEntries place .set).map (·.1)))
  | tag => do put place (.pairs (← (← itemsOf place tag).mapM (makePair tag)))

/-- Makes the members of the collections that wait, and of the collections among them, for at most
so many levels. -/
def makeLevels : Nat → Making Unit
  | 0 => return
  | levels + 1 => do
    let building ← get
    if building.waiting.isEmpty then return
    set { building with waiting := [] }
    building.waiting.reverse.forM makeMembers
    makeLevels levels

end Making

/-- The objects of a graph with a root. There are at most so many levels as there are nodes. -/
def Graph.objects (graph : Graph) (root : Nat) : Except Fault (Array (Option Object)) := do
  let making : Making Unit := do
    Making.make root
    Making.makeLevels (graph.nodes.size + 1)
  let (_, building) ← making.run (.ofGraph graph)
  return building.objects

end TypedClient.Yaml
