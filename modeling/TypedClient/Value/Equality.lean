import TypedClient.Value.Basic

/-!
Equality of document values. Numbers are compared by value across their kinds, and the truth values
count as the numbers zero and one; so the entries `1`, `1.0` and `true` of a mapping have one key.
Mappings and sets are equal when they have the same entries in any order. Collections that hold
themselves may take forever to compare.
-/

namespace TypedClient.Value

/-- The integer that a value equals, if there is one. -/
def asInt? : Value → Option Int
  | .bool b => some (if b then 1 else 0)
  | .int n => some n
  | .float x => x.toInt?
  | _ => none

/-- Equality of values that are no collections. -/
def sameScalar : Value → Value → Bool
  | .null, .null => true
  | .text s, .text t => s == t
  | .date d, .date e => d == e
  | .moment m, .moment n => m.same n
  | .float x, .float y => x.sameValue y
  | .bytes x, .bytes y => x == y
  | a, b =>
    match a.asInt?, b.asInt? with
    | some m, some n => m == n
    | _, _ => false

/-- The two are one object of a table. -/
def isIdentical : Value → Value → Bool
  | .knot a, .knot b => a == b
  | _, _ => false

/-- Compares two lists of one length item by item, up to the first items that differ. -/
def sameItems (inner : Value → Value → Option Bool) : List Value → List Value → Option Bool
  | x :: xs, y :: ys => do if ← inner x y then sameItems inner xs ys else return false
  | _, _ => some true

/-- Looks for the entries of a mapping in another one, up to the first that is not there. -/
def sameEntries (inner : Value → Value → Option Bool) : Entries → Entries → Option Bool
  | [], _ => some true
  | (key, value) :: rest, others =>
    match others.find? fun other => sameScalar key other.1 with
    | some other => do
      if ← inner other.2 value then sameEntries inner rest others else return false
    | none => some false

/-- Compares two values, and their members by `inner`. An object is not compared with itself. -/
def sameBy (inner : Value → Value → Option Bool) (a b : Value) : Option Bool :=
  if isIdentical a b then some true
  else
    match a.opened, b.opened with
    | .list xs, .list ys =>
      if xs.length = ys.length then sameItems inner xs ys else some false
    | .mapping xs, .mapping ys =>
      if xs.length = ys.length then sameEntries inner xs ys else some false
    | .set xs, .set ys => some (xs.length == ys.length && xs.all fun x => ys.any (sameScalar x))
    | .pair key value, .pair otherKey otherValue =>
      sameItems inner [key, value] [otherKey, otherValue]
    | a, b => some (sameScalar a b)

/-- Compares two values down to so many levels. -/
def sameWithin : Nat → Value → Value → Option Bool
  | 0, _, _ => none
  | levels + 1, a, b => sameBy (sameWithin levels) a b

/-- Compares two values. There is no answer if comparing them never ends; that is so when it goes
deeper than there are pairs of their parts. -/
def same? (a b : Value) : Option Bool :=
  sameWithin (2 * (a.parts.length * b.parts.length)) a b

end TypedClient.Value

namespace TypedClient.Entries

/-- A mapping with entries written one after another. -/
def ofPairs (pairs : List (Value × Value)) : Entries :=
  collapse Value.sameScalar pairs

end TypedClient.Entries
