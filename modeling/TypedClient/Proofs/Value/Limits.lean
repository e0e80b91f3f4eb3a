import TypedClient.Proofs.Value.Parts
import TypedClient.TypeExpr.Basic

/-!
The limits of compiling. An integer may have too many digits to be written, and a collection that holds
itself may be followed without end. A value that is within a limit everywhere is so in all its parts.
-/

namespace TypedClient

/-- What keeps compiling from going on, whatever the document says. -/
inductive Limit where
  | digits
  | depth

namespace Limit

def cause : Limit → CompileError
  | digits => .unwritable
  | depth => .endless

theorem cause_injective : Function.Injective cause := by
  intro limit other same
  cases limit <;> cases other <;> first | rfl | cases same

/-- The limit is not met at a value itself: it is no integer of too many digits, or no collection in a
table. -/
def allows : Limit → Value → Bool
  | digits, .int n => n.natAbs < Value.unwritableFrom
  | depth, .knot _ => false
  | _, _ => true

end Limit

variable {limit : Limit}

namespace Value

/-- The limit is met nowhere in the value. -/
def Keeps (limit : Limit) (value : Value) : Prop :=
  ∀ part ∈ value.parts, limit.allows part = true

theorem Keeps.part {value part : Value} (keeps : value.Keeps limit) (isPart : part ∈ value.parts) :
    part.Keeps limit :=
  fun inner inside => keeps inner (parts_subset isPart inside)

theorem Keeps.member {value inner : Value} (keeps : value.Keeps limit) (member : inner ∈ value.members) :
    inner.Keeps limit :=
  keeps.part (mem_parts_of_members (mem_parts_self value) member)

theorem keeps_null : Value.null.Keeps limit := by
  intro part isPart
  simp only [parts, List.mem_singleton] at isPart
  rw [isPart]
  cases limit <;> rfl

theorem isTree_of_keeps {value : Value} (keeps : value.Keeps .depth) : value.IsTree :=
  fun _ isPart => Bool.false_ne_true (keeps _ isPart)

end Value

namespace Entries

/-- The limit is met nowhere in the keys and the values. -/
def Keeps (limit : Limit) (entries : Entries) : Prop :=
  ∀ part ∈ Value.partsOfEntries entries, limit.allows part = true

instance (entries : Entries) : Decidable (entries.Keeps limit) :=
  inferInstanceAs (Decidable (∀ part ∈ Value.partsOfEntries entries, limit.allows part = true))

theorem keeps_iff {entries : Entries} :
    entries.Keeps limit ↔ ∀ entry ∈ entries, entry.1.Keeps limit ∧ entry.2.Keeps limit := by
  constructor
  · intro keeps entry member
    constructor
    · exact fun part isPart => keeps part (Value.mem_partsOfEntries.mpr ⟨entry, member, .inl isPart⟩)
    · exact fun part isPart => keeps part (Value.mem_partsOfEntries.mpr ⟨entry, member, .inr isPart⟩)
  · intro each part isPart
    obtain ⟨entry, member, inKey | inValue⟩ := Value.mem_partsOfEntries.mp isPart
    · exact (each entry member).1 part inKey
    · exact (each entry member).2 part inValue

theorem keeps_mapping {entries : Entries} : (Value.mapping entries).Keeps limit ↔ entries.Keeps limit := by
  have itself : limit.allows (.mapping entries) = true := by cases limit <;> rfl
  simp [Value.Keeps, Value.parts, Entries.Keeps, itself]

theorem Keeps.field {entries : Entries} (keeps : entries.Keeps limit) (name : String) :
    (Entries.field entries name).Keeps limit := by
  unfold Entries.field Entries.get?
  cases found : entries.find? fun entry => entry.1.isText name with
  | none => exact Value.keeps_null
  | some entry => exact (keeps_iff.mp keeps entry (List.mem_of_find?_eq_some found)).2

end Entries

namespace Value

theorem members_of_entries? {value : Value} (found : value.entries? = some entries) :
    value.members = entries.map (·.1) ++ entries.map (·.2) := by
  unfold entries? at found
  unfold members
  split at found
  · rename_i mapping
    cases found
    rw [mapping]
  · cases found

theorem members_of_items? {value : Value} (found : value.items? = some items) :
    value.members = items := by
  unfold items? at found
  unfold members
  split at found
  · rename_i list
    cases found
    rw [list]
  · cases found

theorem Keeps.entries? {value : Value} (keeps : value.Keeps limit)
    (found : value.entries? = some entries) : entries.Keeps limit := by
  have members := members_of_entries? found
  refine Entries.keeps_iff.mpr fun entry member => ⟨keeps.member ?_, keeps.member ?_⟩
  · rw [members]
    exact List.mem_append_left _ (List.mem_map_of_mem member)
  · rw [members]
    exact List.mem_append_right _ (List.mem_map_of_mem member)

theorem Keeps.items? {value : Value} (keeps : value.Keeps limit) (found : value.items? = some items) :
    ∀ item ∈ items, item.Keeps limit :=
  fun _ member => keeps.member (members_of_items? found ▸ member)

/-! ### Texts -/

theorem isSome_mapM {items : List α} {step : α → Option β}
    (each : ∀ item ∈ items, (step item).isSome = true) : (items.mapM step).isSome = true := by
  induction items with
  | nil => rfl
  | cons item rest ih =>
    obtain ⟨itemSome, restSome⟩ := List.forall_mem_cons.mp each
    obtain ⟨first, found⟩ := Option.isSome_iff_exists.mp itemSome
    obtain ⟨others, othersFound⟩ := Option.isSome_iff_exists.mp (ih restSome)
    simp [List.mapM_cons, found, othersFound]

/-- A value has a text when its members have and it is no integer of too many digits. -/
theorem isSome_quotedBy {inner : Value → Option String} {value : Value}
    (short : Limit.digits.allows value.opened = true)
    (each : ∀ part ∈ value.members, (inner part).isSome = true) :
    (quotedBy inner value).isSome = true := by
  unfold members at each
  unfold quotedBy
  cases opened : value.opened with
  | int n =>
    rw [opened] at short
    simp only [Limit.allows, decide_eq_true_eq] at short
    simp [short]
  | list items =>
    simp only [opened] at each ⊢
    rw [Option.isSome_map]
    exact isSome_mapM each
  | mapping entries =>
    simp only [opened] at each ⊢
    rw [Option.isSome_map]
    refine isSome_mapM fun entry member => ?_
    obtain ⟨key, keyFound⟩ := Option.isSome_iff_exists.mp
      (each entry.1 (List.mem_append_left _ (List.mem_map_of_mem member)))
    obtain ⟨value, valueFound⟩ := Option.isSome_iff_exists.mp
      (each entry.2 (List.mem_append_right _ (List.mem_map_of_mem member)))
    simp [keyFound, valueFound]
  | set members =>
    cases members with
    | nil => rfl
    | cons first rest =>
      simp only [opened] at each ⊢
      rw [Option.isSome_map]
      exact isSome_mapM each
  | pair key value =>
    simp only [opened] at each ⊢
    rw [Option.isSome_map]
    exact isSome_mapM each
  | knot collection => exact absurd opened (opened_ne_knot value collection)
  | _ => rfl

theorem Keeps.allows_opened {value : Value} (keeps : value.Keeps .digits) :
    Limit.digits.allows value.opened = true := by
  cases value with
  | knot collection =>
    have tame : ∀ n, collection.opened ≠ .int n := by
      intro n
      unfold Knot.opened
      split
      all_goals try split
      all_goals simp
    simp only [opened]
    cases found : collection.opened with
    | int n => exact absurd found (tame n)
    | _ => rfl
  | _ => exact keeps _ (mem_parts_self _)

theorem quotedBy_opened (inner : Value → Option String) (value : Value) :
    quotedBy inner value.opened = quotedBy inner value := by
  rw [quotedBy, quotedBy, opened_opened]

theorem isSome_quotedWithin {value : Value} (keeps : value.Keeps .digits) (levels : Nat)
    (writing : List Knot) : (quotedWithin levels writing value).isSome = true := by
  induction levels generalizing writing value with
  | zero => rfl
  | succ levels ih =>
    have within (writing : List Knot) : (quotedBy (quotedWithin levels writing) value).isSome = true :=
      isSome_quotedBy keeps.allows_opened fun part member => ih (keeps.member member) writing
    cases value with
    | knot collection =>
      rw [quotedWithin]
      split
      · rfl
      · exact quotedBy_opened _ (.knot collection) ▸ within (collection :: writing)
    | _ => simpa only [quotedWithin] using within writing

theorem Keeps.isWritable {value : Value} (keeps : value.Keeps .digits) : value.isWritable = true :=
  isSome_quotedWithin keeps _ _

end Value

end TypedClient
