import TypedClient.Yaml.Error
import TypedClient.Yaml.Tag

/-!
A document as a graph of nodes. A node is named by its place in the graph, so that an alias is the
place of the node that its anchor names, and a collection may hold itself.
-/

namespace TypedClient.Yaml

/-- What a node holds. The members of a collection are named by their places. -/
inductive Content where
  | scalar (text : String)
  | sequence (items : List Nat)
  | mapping (entries : List (Nat × Nat))
  deriving Repr

structure Node where
  tag : Tag
  content : Content
  deriving Repr

/-- The nodes of a document by their places, and the places that anchors name. -/
structure Graph where
  nodes : Array Node
  anchors : List (String × Nat)
  deriving Repr

namespace Graph

def empty : Graph :=
  ⟨#[], []⟩

/-- The node at a place. At a place without a node there is nothing. -/
def node (graph : Graph) (place : Nat) : Node :=
  graph.nodes.getD place ⟨.null, .scalar ""⟩

def tag (graph : Graph) (place : Nat) : Tag :=
  (graph.node place).tag

def entries (graph : Graph) (place : Nat) : List (Nat × Nat) :=
  match (graph.node place).content with
  | .mapping entries => entries
  | _ => []

def modify (graph : Graph) (place : Nat) (change : Node → Node) : Graph :=
  { graph with nodes := graph.nodes.modify place change }

/-- Gives the node at a place another content. -/
def setContent (graph : Graph) (place : Nat) (content : Content) : Graph :=
  graph.modify place fun node => { node with content }

/-- Gives the node at a place another tag. -/
def setTag (graph : Graph) (place : Nat) (tag : Tag) : Graph :=
  graph.modify place fun node => { node with tag }

/-- Adds a node, which an anchor may name. An anchor is defined once. -/
def add (graph : Graph) (anchor : Option String) (node : Node) : Except Fault (Nat × Graph) :=
  let place := graph.nodes.size
  match anchor with
  | none => .ok (place, { graph with nodes := graph.nodes.push node })
  | some name =>
    if (graph.anchors.lookup name).isSome then .error (.malformed (.repeatedAnchor name))
    else .ok (place, ⟨graph.nodes.push node, (name, place) :: graph.anchors⟩)

def aliased (graph : Graph) (name : String) : Except Fault Nat :=
  match graph.anchors.lookup name with
  | some place => .ok place
  | none => .error (.malformed (.undefinedAlias name))

end Graph

/-- Steps that add nodes to a graph. -/
abbrev Composing := StateT Graph (Except Fault)

namespace Composing

def add (anchor : Option String) (node : Node) : Composing Nat := fun graph =>
  graph.add anchor node

def aliased (name : String) : Composing Nat := fun graph =>
  (graph.aliased name).map (·, graph)

def setContent (place : Nat) (content : Content) : Composing Unit :=
  modify fun graph => graph.setContent place content

end Composing

end TypedClient.Yaml
