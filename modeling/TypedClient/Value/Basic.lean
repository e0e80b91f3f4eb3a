import TypedClient.Basic
import TypedClient.Calendar
import TypedClient.Number.Binary64

/-!
Values of a loaded document. A mapping keeps its entries in order, and its keys may be any scalar.
Fields of a document are looked up by a text key. Writing to a key that is present replaces the
value and keeps the place, so of repeated keys the last value stands at the first position.

A document may put a collection inside itself. Such a collection is a place in a table, in which the
members of each collection are named by their places again; so it is looked into one level at a time.
-/

namespace TypedClient

inductive Atom where
  | null
  | bool (b : Bool)
  | int (n : Int)
  | float (x : Binary64)
  | text (s : String)
  | date (d : Date)
  | moment (m : Moment)
  | bytes (content : List UInt8)
  deriving DecidableEq, Repr

/-- A scalar, or a collection whose members are named by their places in a table. -/
inductive Object where
  | plain (atom : Atom)
  | list (items : List Nat)
  | mapping (entries : List (Atom × Nat))
  | set (members : List Atom)
  /-- A list of pairs. -/
  | pairs (entries : List (Nat × Nat))
  deriving DecidableEq, Repr

/-- A collection in a table of objects. -/
structure Knot where
  place : Nat
  /-- Zero for the object at the place, and the number of an entry, from one on, for that pair of a
  list of pairs. -/
  entry : Nat
  objects : Array Object
  deriving DecidableEq, Repr

/-- A value of a loaded document. -/
inductive Value where
  | null
  | bool (b : Bool)
  | int (n : Int)
  | float (x : Binary64)
  | text (s : String)
  | date (d : Date)
  | moment (m : Moment)
  | bytes (content : List UInt8)
  | list (items : List Value)
  | mapping (entries : List (Value × Value))
  /-- Scalars of which none is repeated. -/
  | set (members : List Value)
  /-- An entry of a list of entries. -/
  | pair (key value : Value)
  /-- A collection that may hold itself. -/
  | knot (knot : Knot)
  deriving Repr

def Atom.value : Atom → Value
  | .null => .null
  | .bool b => .bool b
  | .int n => .int n
  | .float x => .float x
  | .text s => .text s
  | .date d => .date d
  | .moment m => .moment m
  | .bytes content => .bytes content

namespace Knot

/-- The value at a place of a table. At a place without an object there is nothing. -/
def member (objects : Array Object) (place : Nat) : Value :=
  match objects[place]? with
  | some (.plain atom) => atom.value
  | some (.set members) => .set (members.map Atom.value)
  | some _ => .knot ⟨place, 0, objects⟩
  | none => .null

/-- The pairs of a list of pairs at a place. -/
def pairsAt (objects : Array Object) (place : Nat) (entries : List (Nat × Nat)) : List Value :=
  (List.range entries.length).map fun index => .knot ⟨place, index + 1, objects⟩

/-- The collection with its members. -/
def opened (knot : Knot) : Value :=
  let member := member knot.objects
  match knot.objects[knot.place]?, knot.entry with
  | some (.list items), 0 => .list (items.map member)
  | some (.mapping entries), 0 => .mapping (entries.map fun entry => (entry.1.value, member entry.2))
  | some (.pairs entries), 0 => .list (pairsAt knot.objects knot.place entries)
  | some (.pairs entries), index + 1 =>
    match entries[index]? with
    | some entry => .pair (member entry.1) (member entry.2)
    | none => .null
  | _, _ => .null

/-- What an object holds apart from the objects of other places. -/
def ownValues (objects : Array Object) (place : Nat) : Object → List Value
  | .mapping entries => entries.map (·.1.value)
  | .set members => members.map Atom.value
  | .pairs entries => pairsAt objects place entries
  | _ => []

/-- All values in a table, and the null behind its end. -/
def values (objects : Array Object) : List Value :=
  .null :: objects.toList.zipIdx.flatMap fun (object, place) =>
    member objects place :: ownValues objects place object

end Knot

/-- The entries of a mapping in order. -/
abbrev Entries := List (Value × Value)

namespace Value

def isText (name : String) : Value → Bool
  | .text s => s == name
  | _ => false

/-- The value, with its members if it is a collection. -/
def opened : Value → Value
  | .knot collection => collection.opened
  | value => value

def isComposite (value : Value) : Bool :=
  match value.opened with
  | .list _ | .mapping _ => true
  | _ => false

/-- The value counts as true where a flag is expected: it is not absent, zero or empty. -/
def isTruthy (value : Value) : Bool :=
  match value.opened with
  | .null => false
  | .bool b => b
  | .int n => n != 0
  | .float x => !x.isZero
  | .text s => !s.isEmpty
  | .date _ | .moment _ | .pair .. | .knot _ => true
  | .bytes content => !content.isEmpty
  | .list items => !items.isEmpty
  | .mapping entries => !entries.isEmpty
  | .set members => !members.isEmpty

def entries? (value : Value) : Option Entries :=
  match value.opened with
  | .mapping entries => some entries
  | _ => none

def items? (value : Value) : Option (List Value) :=
  match value.opened with
  | .list items => some items
  | _ => none

def text? : Value → Option String
  | .text s => some s
  | _ => none

mutual

/-- The value and all values that it is made of. -/
def parts : Value → List Value
  | .list items => .list items :: partsOfItems items
  | .mapping entries => .mapping entries :: partsOfEntries entries
  | .set members => .set members :: partsOfItems members
  | .pair key value => .pair key value :: (parts key ++ parts value)
  | .knot collection => .knot collection :: Knot.values collection.objects
  | scalar => [scalar]

def partsOfItems : List Value → List Value
  | [] => []
  | item :: rest => parts item ++ partsOfItems rest

def partsOfEntries : List (Value × Value) → List Value
  | [] => []
  | (key, value) :: rest => parts key ++ parts value ++ partsOfEntries rest

end

end Value

namespace Entries

/-- The value at a text key. -/
def get? (entries : Entries) (name : String) : Option Value :=
  (entries.find? fun entry => entry.1.isText name).map (·.2)

/-- The value at a text key; an absent field is null. -/
def field (entries : Entries) (name : String) : Value :=
  (entries.get? name).getD .null

end Entries

end TypedClient
