import TypedClient.Yaml.Graph.Object
import TypedClient.Yaml.Graph.OfStream
import TypedClient.Yaml.Token.Stream

/-!
Values of YAML documents. Objects that hold themselves nowhere have their values at once, each when the
values of its members are known. An object that holds itself, or one that does, is left as a place in the
table of all objects.
-/

namespace TypedClient.Yaml

/-- The objects of a document and the values that are known, by their places. -/
structure Valuation where
  objects : Array (Option Object)
  values : Array (Option Value)

namespace Valuation

def ofObjects (objects : Array (Option Object)) : Valuation :=
  ⟨objects, Array.replicate objects.size none⟩

def value? (valuation : Valuation) (place : Nat) : Option Value :=
  valuation.values.getD place none

def object? (valuation : Valuation) (place : Nat) : Option Object :=
  valuation.objects.getD place none

def entryValue? (valuation : Valuation) (entry : Atom × Nat) : Option (Value × Value) :=
  (valuation.value? entry.2).map (entry.1.value, ·)

def pairValue? (valuation : Valuation) (entry : Nat × Nat) : Option Value := do
  return .pair (← valuation.value? entry.1) (← valuation.value? entry.2)

/-- The value of an object, if the values of its members are known. -/
def valueOf? (valuation : Valuation) : Object → Option Value
  | .plain atom => some atom.value
  | .list items => (items.mapM valuation.value?).map Value.list
  | .mapping entries => (entries.mapM valuation.entryValue?).map Value.mapping
  | .set members => some (.set (members.map Atom.value))
  | .pairs entries => (entries.mapM valuation.pairValue?).map Value.list

/-- Notes the value at a place, if the values of the members there are known. -/
def settle (valuation : Valuation) (place : Nat) : Valuation :=
  if (valuation.value? place).isSome then valuation
  else
    match (valuation.object? place).bind valuation.valueOf? with
    | some value => { valuation with values := valuation.values.setIfInBounds place (some value) }
    | none => valuation

def unsettled (valuation : Valuation) : List Nat :=
  (List.range valuation.objects.size).filter fun place =>
    (valuation.object? place).isSome && (valuation.value? place).isNone

/-- Notes the values of all objects that hold themselves nowhere. Members mostly stand behind their
collections, so the places are gone through backwards first; an alias may take another pass. -/
def settleAll (valuation : Valuation) : Nat → Valuation
  | 0 => valuation
  | passes + 1 =>
    let before := valuation.unsettled
    let backward := before.foldr (fun place settled => settled.settle place) valuation
    let settled := before.foldl settle backward
    if settled.unsettled.length < before.length then settled.settleAll passes else settled

/-- The objects of all places. At places that no part of the document is made of there is nothing. -/
def table (valuation : Valuation) : Array Object :=
  valuation.objects.map fun object => object.getD (.plain .null)

def value (valuation : Valuation) (place : Nat) : Value :=
  (valuation.value? place).getD (Knot.member valuation.table place)

end Valuation

def Graph.value (graph : Graph) (root : Nat) : Except Fault Value := do
  let objects ← graph.objects root
  return ((Valuation.ofObjects objects).settleAll objects.size).value root

/-- The value of a text that holds at most one document. A text without a document is null. -/
def read (text : String) : Except Fault Value := do
  match ← Graph.ofStream (← tokensOf text) with
  | (none, _) => return .null
  | (some root, graph) => graph.value root

end TypedClient.Yaml
