import Mathlib.Data.List.Basic
import TypedClient.Value.Basic

/-!
The parts of a value. What a collection holds is among its parts, and so are the parts of that. There are
finitely many of them, even when a collection holds itself.
-/

namespace TypedClient

namespace Value

/-! ### Parts -/

theorem mem_parts_self (value : Value) : value ∈ value.parts := by
  cases value <;> simp [parts]

theorem mem_partsOfItems {items : List Value} :
    part ∈ partsOfItems items ↔ ∃ item ∈ items, part ∈ item.parts := by
  induction items with
  | nil => simp [partsOfItems]
  | cons item rest ih => simp [partsOfItems, ih]

theorem mem_partsOfEntries {entries : Entries} : part ∈ partsOfEntries entries ↔
    ∃ entry ∈ entries, part ∈ entry.1.parts ∨ part ∈ entry.2.parts := by
  induction entries with
  | nil => simp [partsOfEntries]
  | cons entry rest ih => simp [partsOfEntries, ih, or_assoc]

def members (value : Value) : List Value :=
  match value.opened with
  | .list items | .set items => items
  | .mapping entries => entries.map (·.1) ++ entries.map (·.2)
  | .pair key value => [key, value]
  | _ => []

@[simp] theorem parts_atom (atom : Atom) : atom.value.parts = [atom.value] := by
  cases atom <;> rfl

end Value

namespace Knot

theorem mem_values {objects : Array Object} {place : Nat} (found : objects[place]? = some object)
    (inside : value = member objects place ∨ value ∈ ownValues objects place object) :
    value ∈ values objects := by
  have present : (object, place) ∈ objects.toList.zipIdx :=
    List.mk_mem_zipIdx_iff_getElem?.mpr (by simpa using found)
  refine List.mem_cons_of_mem _ (List.mem_flatMap.mpr ⟨_, present, ?_⟩)
  exact List.mem_cons.mpr inside

/-- What stands at a place of a table has its parts in the table. -/
theorem parts_member_subset (objects : Array Object) (place : Nat) :
    (member objects place).parts ⊆ values objects := by
  cases found : objects[place]? with
  | none => simp [member, found, Value.parts, values]
  | some object =>
    have itself : member objects place ∈ values objects := mem_values found (.inl rfl)
    cases object with
    | plain atom =>
      simp only [member, found] at itself ⊢
      simpa using itself
    | set scalars =>
      simp only [member, found, Value.parts] at itself ⊢
      refine List.cons_subset.mpr ⟨itself, fun part isPart => ?_⟩
      obtain ⟨item, inside, isPart⟩ := Value.mem_partsOfItems.mp isPart
      obtain ⟨atom, present, rfl⟩ := List.mem_map.mp inside
      rw [Value.parts_atom, List.mem_singleton] at isPart
      exact mem_values found (.inr (isPart ▸ List.mem_map_of_mem present))
    | _ =>
      simp only [member, found, Value.parts] at itself ⊢
      exact List.cons_subset.mpr ⟨itself, List.Subset.refl _⟩

/-- What a table holds has its parts in the table. -/
theorem parts_subset_values {collection : Knot} (inside : value ∈ values collection.objects) :
    value.parts ⊆ .knot collection :: values collection.objects := by
  obtain ⟨place, entry, objects⟩ := collection
  rcases List.mem_cons.mp inside with rfl | inside
  · simp [Value.parts, values]
  obtain ⟨⟨object, spot⟩, present, inside⟩ := List.mem_flatMap.mp inside
  have found : objects[spot]? = some object := by simpa using List.mk_mem_zipIdx_iff_getElem?.mp present
  rcases List.mem_cons.mp inside with rfl | own
  · exact List.subset_cons_of_subset _ (parts_member_subset objects spot)
  have itself : value ∈ values objects := mem_values found (.inr own)
  have alone (parts : value.parts = [value]) :
      value.parts ⊆ .knot ⟨place, entry, objects⟩ :: values objects := by
    simpa [parts] using .inr itself
  cases object with
  | plain | list => cases own
  | mapping entries =>
    obtain ⟨pair, _, rfl⟩ := List.mem_map.mp own
    exact alone (Value.parts_atom _)
  | set scalars =>
    obtain ⟨atom, _, rfl⟩ := List.mem_map.mp own
    exact alone (Value.parts_atom _)
  | pairs entries =>
    obtain ⟨index, _, rfl⟩ := List.mem_map.mp own
    rw [Value.parts]
    exact List.subset_cons_of_subset _ (List.cons_subset.mpr ⟨itself, List.Subset.refl _⟩)

/-- What a collection in a table holds stands in the table. -/
theorem mem_values_of_mem_members {collection : Knot} (member : value ∈ (Value.knot collection).members) :
    value ∈ values collection.objects := by
  obtain ⟨place, entry, objects⟩ := collection
  have ofMember (spot : Nat) : Knot.member objects spot ∈ values objects :=
    parts_member_subset objects spot (Value.mem_parts_self _)
  cases found : objects[place]? with
  | none => simp [Value.members, Value.opened, opened, found] at member
  | some object =>
    cases object with
    | plain | set => simp [Value.members, Value.opened, opened, found] at member
    | list items =>
      cases entry with
      | succ => simp [Value.members, Value.opened, opened, found] at member
      | zero =>
        simp only [Value.members, Value.opened, opened, found, List.mem_map] at member
        obtain ⟨spot, _, rfl⟩ := member
        exact ofMember spot
    | mapping entries =>
      cases entry with
      | succ => simp [Value.members, Value.opened, opened, found] at member
      | zero =>
        simp only [Value.members, Value.opened, opened, found, List.map_map, List.mem_append,
          List.mem_map, Function.comp_apply] at member
        rcases member with ⟨pair, present, rfl⟩ | ⟨pair, _, rfl⟩
        · exact mem_values found (.inr (List.mem_map_of_mem present))
        · exact ofMember pair.2
    | pairs entries =>
      cases entry with
      | zero =>
        simp only [Value.members, Value.opened, opened, found] at member
        exact mem_values found (.inr member)
      | succ index =>
        cases present : entries[index]? with
        | none => simp [Value.members, Value.opened, opened, found, present] at member
        | some pair =>
          simp only [Value.members, Value.opened, opened, found, present, List.mem_cons,
            List.not_mem_nil, or_false] at member
          rcases member with rfl | rfl
          · exact ofMember pair.1
          · exact ofMember pair.2

end Knot

namespace Value

/-- A part of a value is the value itself or within it. So its parts are parts of the value when those of
all that is within it are. -/
theorem parts_subset_of_within {value part : Value} {within : List Value}
    (whole : value.parts = value :: within) (isPart : part ∈ value.parts)
    (deeper : part ∈ within → part.parts ⊆ value :: within) : part.parts ⊆ value.parts := by
  rw [whole] at isPart ⊢
  rcases List.mem_cons.mp isPart with rfl | inside
  · rw [whole]
    exact List.Subset.refl _
  · exact deeper inside

mutual

/-- Parts of parts are parts. -/
theorem parts_subset : ∀ {value part : Value}, part ∈ value.parts → part.parts ⊆ value.parts
  | .list items, part => by
    intro isPart
    refine parts_subset_of_within (by rw [parts]) isPart fun inside => ?_
    exact List.subset_cons_of_subset _ (partsOfItems_subset inside)
  | .mapping entries, part => by
    intro isPart
    refine parts_subset_of_within (by rw [parts]) isPart fun inside => ?_
    exact List.subset_cons_of_subset _ (partsOfEntries_subset inside)
  | .set items, part => by
    intro isPart
    refine parts_subset_of_within (by rw [parts]) isPart fun inside => ?_
    exact List.subset_cons_of_subset _ (partsOfItems_subset inside)
  | .pair key value, part => by
    intro isPart
    refine parts_subset_of_within (by rw [parts]) isPart fun inside => ?_
    refine List.subset_cons_of_subset _ ?_
    rcases List.mem_append.mp inside with inKey | inValue
    · exact List.subset_append_of_subset_left _ (parts_subset inKey)
    · exact List.subset_append_of_subset_right _ (parts_subset inValue)
  | .knot collection, part => by
    intro isPart
    exact parts_subset_of_within (by rw [parts]) isPart Knot.parts_subset_values
  | .null, part | .bool _, part | .int _, part | .float _, part | .text _, part | .date _, part
  | .moment _, part | .bytes _, part => by
    intro isPart
    simp only [parts, List.mem_singleton] at isPart
    exact isPart ▸ List.Subset.refl _

theorem partsOfItems_subset : ∀ {items : List Value} {part : Value}, part ∈ partsOfItems items →
    part.parts ⊆ partsOfItems items
  | [], part => by simp [partsOfItems]
  | item :: rest, part => by
    intro isPart
    rw [partsOfItems] at isPart ⊢
    rcases List.mem_append.mp isPart with inItem | inRest
    · exact List.subset_append_of_subset_left _ (parts_subset inItem)
    · exact List.subset_append_of_subset_right _ (partsOfItems_subset inRest)

theorem partsOfEntries_subset : ∀ {entries : Entries} {part : Value}, part ∈ partsOfEntries entries →
    part.parts ⊆ partsOfEntries entries
  | [], part => by simp [partsOfEntries]
  | (key, value) :: rest, part => by
    intro isPart
    rw [partsOfEntries] at isPart ⊢
    rcases List.mem_append.mp isPart with inEntry | inRest
    · refine List.subset_append_of_subset_left _ ?_
      rcases List.mem_append.mp inEntry with inKey | inValue
      · exact List.subset_append_of_subset_left _ (parts_subset inKey)
      · exact List.subset_append_of_subset_right _ (parts_subset inValue)
    · exact List.subset_append_of_subset_right _ (partsOfEntries_subset inRest)

end

theorem opened_ne_knot (value : Value) (collection : Knot) : value.opened ≠ .knot collection := by
  cases value with
  | knot inner =>
    simp only [opened, Knot.opened]
    split
    all_goals try split
    all_goals simp
  | _ => simp [opened]

@[simp] theorem opened_opened (value : Value) : value.opened.opened = value.opened := by
  cases found : value.opened with
  | knot collection => exact absurd found (opened_ne_knot value collection)
  | _ => rfl

theorem members_opened (value : Value) : value.opened.members = value.members := by
  rw [members, members, opened_opened]

/-- What a part of a value holds is a part of the value. -/
theorem mem_parts_of_members {value part inner : Value} (isPart : part ∈ value.parts)
    (member : inner ∈ part.members) : inner ∈ value.parts := by
  refine parts_subset isPart ?_
  cases part with
  | list items | set items =>
    rw [parts]
    exact List.mem_cons_of_mem _ (mem_partsOfItems.mpr ⟨inner, member, mem_parts_self inner⟩)
  | mapping entries =>
    rw [parts]
    refine List.mem_cons_of_mem _ (mem_partsOfEntries.mpr ?_)
    rcases List.mem_append.mp member with isKey | isValue
    · obtain ⟨entry, present, rfl⟩ := List.mem_map.mp isKey
      exact ⟨entry, present, .inl (mem_parts_self _)⟩
    · obtain ⟨entry, present, rfl⟩ := List.mem_map.mp isValue
      exact ⟨entry, present, .inr (mem_parts_self _)⟩
  | pair key value =>
    have self := mem_parts_self inner
    simp only [members, opened, List.mem_cons, List.not_mem_nil, or_false] at member
    rcases member with rfl | rfl <;> simp [parts, self]
  | knot collection =>
    rw [parts]
    exact List.mem_cons_of_mem _ (Knot.mem_values_of_mem_members member)
  | _ => cases member

theorem length_parts_le_partsOfItems {items : List Value} (member : item ∈ items) :
    item.parts.length ≤ (partsOfItems items).length := by
  induction items with
  | nil => cases member
  | cons first rest ih =>
    rw [partsOfItems, List.length_append]
    rcases List.mem_cons.mp member with rfl | later
    · exact Nat.le_add_right _ _
    · exact Nat.le_add_left_of_le (ih later)

theorem length_parts_le_partsOfEntries {entries : Entries} (member : entry ∈ entries) :
    entry.1.parts.length ≤ (partsOfEntries entries).length ∧
      entry.2.parts.length ≤ (partsOfEntries entries).length := by
  induction entries with
  | nil => cases member
  | cons first rest ih =>
    rw [partsOfEntries, List.length_append, List.length_append]
    rcases List.mem_cons.mp member with rfl | later
    · omega
    · have := ih later
      omega

/-- A value that stands in no table has more parts than what it holds. -/
theorem length_parts_lt {value inner : Value} (outside : ∀ collection, value ≠ .knot collection)
    (member : inner ∈ value.members) : inner.parts.length < value.parts.length := by
  cases value with
  | list items | set items =>
    rw [parts, List.length_cons]
    exact Nat.lt_succ_of_le (length_parts_le_partsOfItems member)
  | mapping entries =>
    rw [parts, List.length_cons]
    rcases List.mem_append.mp member with isKey | isValue
    · obtain ⟨entry, present, rfl⟩ := List.mem_map.mp isKey
      exact Nat.lt_succ_of_le (length_parts_le_partsOfEntries present).1
    · obtain ⟨entry, present, rfl⟩ := List.mem_map.mp isValue
      exact Nat.lt_succ_of_le (length_parts_le_partsOfEntries present).2
  | pair key value =>
    simp only [members, opened, List.mem_cons, List.not_mem_nil, or_false] at member
    rw [parts, List.length_cons, List.length_append]
    rcases member with rfl | rfl <;> omega
  | knot collection => exact absurd rfl (outside collection)
  | _ => cases member

/-- No part of the value stands in a table. -/
def IsTree (value : Value) : Prop :=
  ∀ collection, .knot collection ∉ value.parts

theorem IsTree.outside {value : Value} (tree : value.IsTree) (collection : Knot) :
    value ≠ .knot collection := by
  rintro rfl
  exact tree collection (mem_parts_self _)

theorem IsTree.members {value inner : Value} (tree : value.IsTree) (member : inner ∈ value.members) :
    inner.IsTree := fun collection isPart =>
  tree collection (parts_subset (mem_parts_of_members (mem_parts_self value) member) isPart)

end Value

end TypedClient
