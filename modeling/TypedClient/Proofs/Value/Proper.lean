import TypedClient.Proofs.Association
import TypedClient.Proofs.Number.Canonical
import TypedClient.Proofs.Value.Parts
import TypedClient.Value.Equality

/-!
Values that a document can hold. Scalars are equal when they stand for one thing: a number, whatever its
kind, an instant, or a text. No two keys of a mapping and no two members of a set are equal.
-/

namespace TypedClient

inductive Scalar where
  | null
  | whole (n : Int)
  | fractional (x : Binary64)
  | text (s : String)
  | date (d : Date)
  | moment (knowsOffset : Bool) (instant : Int)
  | bytes (content : List UInt8)

/-- A number that is an integer stands for this integer, however it is written. -/
def Scalar.ofFloat (x : Binary64) : Scalar :=
  match x.toInt? with
  | some n => .whole n
  | none => .fractional x

theorem Binary64.sameValue_iff {x y : Binary64} (first : x.IsCanonical) (second : y.IsCanonical) :
    x.sameValue y = true ↔ Scalar.ofFloat x = Scalar.ofFloat y := by
  constructor
  · intro same
    have agree := toInt?_of_sameValue same
    cases found : x.toInt? with
    | some n => simp [Scalar.ofFloat, found, ← agree]
    | none => rw [eq_of_sameValue same found]
  · intro equal
    cases whole : x.toInt? <;> cases other : y.toInt? <;>
      simp only [Scalar.ofFloat, whole, other, Scalar.fractional.injEq, Scalar.whole.injEq,
        reduceCtorEq] at equal
    · simp [sameValue, equal]
    · exact sameValue_of_toInt? first second whole (equal ▸ other)

namespace Value

def scalar? : Value → Option Scalar
  | .null => some .null
  | .bool b => some (.whole (if b then 1 else 0))
  | .int n => some (.whole n)
  | .float x => some (.ofFloat x)
  | .text s => some (.text s)
  | .date d => some (.date d)
  | .moment m => some (.moment m.offset.isSome m.instant)
  | .bytes content => some (.bytes content)
  | _ => none

theorem isSome_scalar?_atom (atom : Atom) : atom.value.scalar?.isSome = true := by
  cases atom <;> rfl

/-- The keys of a mapping or the members of a set: scalars of which none equals another. -/
def DistinctKeys (keys : List Value) : Prop :=
  (∀ key ∈ keys, key.scalar?.isSome = true) ∧
    keys.Pairwise fun first second => sameScalar first second = false

/-- After all writes the keys are distinct when they are scalars. -/
theorem distinctKeys_collapse {entries : List (Value × α)}
    (scalars : ∀ key ∈ entries.map (·.1), key.scalar?.isSome = true) :
    DistinctKeys ((collapse sameScalar entries).map (·.1)) := by
  obtain ⟨written, apart⟩ := keys_collapse sameScalar entries
  exact ⟨fun key member => scalars key (written key member), apart⟩

end Value

/-- The scalar is one that a document can hold: a number is canonical. -/
def Atom.IsProper : Atom → Prop
  | .float x => x.IsCanonical
  | _ => True

/-- The object is one that a document can hold: the keys of a mapping and the members of a set are
distinct. -/
def Object.IsProper : Object → Prop
  | .plain atom => atom.IsProper
  | .mapping entries =>
    Value.DistinctKeys (entries.map (·.1.value)) ∧ ∀ entry ∈ entries, entry.1.IsProper
  | .set members => Value.DistinctKeys (members.map Atom.value) ∧ ∀ atom ∈ members, atom.IsProper
  | .list _ | .pairs _ => True

namespace Value

mutual

/-- The value is one that a document can hold: its numbers are canonical, and the keys of its mappings
and the members of its sets are distinct. -/
def IsProper : Value → Prop
  | .float x => x.IsCanonical
  | .list items => AreProper items
  | .mapping entries => DistinctKeys (entries.map (·.1)) ∧ EntriesAreProper entries
  | .set members => DistinctKeys members ∧ AreProper members
  | .pair key value => IsProper key ∧ IsProper value
  | .knot collection => ∀ object ∈ collection.objects, object.IsProper
  | _ => True

/-- A document can hold all items. -/
def AreProper : List Value → Prop
  | [] => True
  | item :: rest => IsProper item ∧ AreProper rest

/-- A document can hold all keys and values. -/
def EntriesAreProper : Entries → Prop
  | [] => True
  | (key, value) :: rest => (IsProper key ∧ IsProper value) ∧ EntriesAreProper rest

end

theorem areProper_iff {items : List Value} : AreProper items ↔ ∀ item ∈ items, item.IsProper := by
  induction items with
  | nil => simp [AreProper]
  | cons item rest ih =>
    rw [AreProper, ih]
    simp

theorem entriesAreProper_iff {entries : Entries} :
    EntriesAreProper entries ↔ ∀ entry ∈ entries, entry.1.IsProper ∧ entry.2.IsProper := by
  induction entries with
  | nil => simp [EntriesAreProper]
  | cons entry rest ih =>
    rw [EntriesAreProper, ih]
    simp

/-! ### Scalars -/

/-- Two values are equal as scalars when they are scalars that stand for the same. -/
theorem sameScalar_iff {a b : Value} (first : a.IsProper) (second : b.IsProper) :
    sameScalar a b = true ↔ a.scalar?.isSome = true ∧ a.scalar? = b.scalar? := by
  cases a with
  | float x =>
    cases b with
    | float y =>
      have numbers := Binary64.sameValue_iff first second
      simpa [sameScalar, scalar?] using numbers
    | _ => cases found : x.toInt? <;> simp [sameScalar, asInt?, scalar?, Scalar.ofFloat, found]
  | _ =>
    cases b with
    | float y => cases found : y.toInt? <;> simp [sameScalar, asInt?, scalar?, Scalar.ofFloat, found]
    | _ => simp [sameScalar, asInt?, scalar?, Moment.same]

theorem sameScalar_symm {a b : Value} (first : a.IsProper) (second : b.IsProper)
    (equal : sameScalar a b = true) : sameScalar b a = true := by
  obtain ⟨isScalar, same⟩ := (sameScalar_iff first second).mp equal
  exact (sameScalar_iff second first).mpr ⟨same ▸ isScalar, same.symm⟩

theorem sameScalar_trans {a b c : Value} (first : a.IsProper) (second : b.IsProper)
    (third : c.IsProper) (equal : sameScalar a b = true) (further : sameScalar b c = true) :
    sameScalar a c = true := by
  obtain ⟨isScalar, same⟩ := (sameScalar_iff first second).mp equal
  obtain ⟨_, again⟩ := (sameScalar_iff second third).mp further
  exact (sameScalar_iff first third).mpr ⟨isScalar, same.trans again⟩

/-! ### Collections -/

@[simp] theorem isProper_atom {atom : Atom} : atom.value.IsProper ↔ atom.IsProper := by
  cases atom <;> simp [Atom.value, IsProper, Atom.IsProper]

theorem isProper_member {objects : Array Object} (proper : ∀ object ∈ objects, object.IsProper)
    (place : Nat) : (Knot.member objects place).IsProper := by
  cases found : objects[place]? with
  | none => simp [Knot.member, found, IsProper]
  | some object =>
    have objectProper := proper object (Array.mem_of_getElem? found)
    cases object with
    | plain atom =>
      simp only [Knot.member, found]
      exact isProper_atom.mpr objectProper
    | set members =>
      simp only [Knot.member, found, IsProper]
      refine ⟨objectProper.1, areProper_iff.mpr fun value member => ?_⟩
      obtain ⟨atom, present, rfl⟩ := List.mem_map.mp member
      exact isProper_atom.mpr (objectProper.2 atom present)
    | _ => simpa [Knot.member, found, IsProper] using proper

theorem IsProper.opened {value : Value} (proper : value.IsProper) : value.opened.IsProper := by
  cases value with
  | knot collection =>
    obtain ⟨place, entry, objects⟩ := collection
    rw [IsProper] at proper
    have each (spot : Nat) : (Knot.member objects spot).IsProper := isProper_member proper spot
    simp only [Value.opened, Knot.opened]
    split
    · rw [IsProper, areProper_iff]
      simpa using fun spot _ => each spot
    · rename_i entries found
      have objectProper := proper _ (Array.mem_of_getElem? found)
      rw [IsProper, entriesAreProper_iff, List.map_map]
      refine ⟨objectProper.1, fun entry member => ?_⟩
      obtain ⟨source, present, rfl⟩ := List.mem_map.mp member
      exact ⟨isProper_atom.mpr (objectProper.2 source present), each source.2⟩
    · rw [IsProper, areProper_iff]
      intro value member
      obtain ⟨index, _, rfl⟩ := List.mem_map.mp member
      simpa [IsProper] using proper
    · split
      · simpa [IsProper] using ⟨each _, each _⟩
      · simp [IsProper]
    · simp [IsProper]
  | _ => exact proper

theorem opened_of_entries? {value : Value} (found : value.entries? = some entries) :
    value.opened = .mapping entries := by
  unfold entries? at found
  split at found <;> simp_all

theorem IsProper.of_entries? {value : Value} (proper : value.IsProper)
    (found : value.entries? = some entries) : DistinctKeys (entries.map (·.1)) ∧
      ∀ entry ∈ entries, entry.1.IsProper ∧ entry.2.IsProper := by
  have mapping := opened_of_entries? found ▸ proper.opened
  rw [IsProper] at mapping
  exact mapping.imp_right entriesAreProper_iff.mp

end Value

/-- A field of a mapping in a document is a value that a document can hold. -/
theorem Entries.field_proper {entries : Entries} (proper : ∀ entry ∈ entries, entry.2.IsProper)
    (name : String) : (Entries.field entries name).IsProper := by
  unfold Entries.field Entries.get?
  cases found : entries.find? fun entry => entry.1.isText name with
  | none => simp [Value.IsProper]
  | some entry => exact proper entry (List.mem_of_find?_eq_some found)

end TypedClient
