import Mathlib.Data.List.Basic

/-!
Lists of items under keys. Altering the item under a key changes the first one in its place, and adds
a changed initial item at the end when there is none; keys that are distinct stay distinct.
-/

namespace TypedClient.Keyed

/-- Changes the first item under a key, or adds a changed initial item. -/
def alter (key : α → String) (name : String) (change : α → α) (initial : α) : List α → List α
  | [] => [change initial]
  | item :: rest =>
    if key item = name then change item :: rest else item :: alter key name change initial rest

variable {key : α → String} {name : String} {change : α → α} {initial : α}

theorem map_alter (kept : ∀ item, key item = name → key (change item) = name)
    (initialKey : key initial = name) (items : List α) :
    (alter key name change initial items).map key =
      if name ∈ items.map key then items.map key else items.map key ++ [name] := by
  induction items with
  | nil => simp [alter, kept initial initialKey]
  | cons item rest ih =>
    by_cases same : key item = name
    · simp [alter, same, kept item same]
    · have other : name ≠ key item := fun equal => same equal.symm
      simp only [alter, same, ↓reduceIte, List.map_cons, ih, List.mem_cons, other, false_or]
      split <;> rfl

/-- Where the items of an altered list come from: they are left as they were, or changed. -/
theorem mem_alter (distinct : (items.map key).Nodup)
    (member : item ∈ alter key name change initial items) :
    (item ∈ items ∧ key item ≠ name) ∨
      ∃ old, (old ∈ items ∧ key old = name ∨ name ∉ items.map key ∧ old = initial) ∧
        item = change old := by
  induction items with
  | nil =>
    right
    exact ⟨initial, .inr ⟨by simp, rfl⟩, by simpa [alter] using member⟩
  | cons first rest ih =>
    obtain ⟨firstNew, restDistinct⟩ := List.nodup_cons.mp distinct
    by_cases same : key first = name
    · rw [alter, if_pos same] at member
      rcases List.mem_cons.mp member with changed | kept
      · exact .inr ⟨first, .inl ⟨List.mem_cons_self, same⟩, changed⟩
      · refine .inl ⟨List.mem_cons_of_mem first kept, ?_⟩
        intro again
        exact firstNew (List.mem_map.mpr ⟨item, kept, again.trans same.symm⟩)
    · rw [alter, if_neg same] at member
      rcases List.mem_cons.mp member with unchanged | later
      · exact .inl ⟨unchanged ▸ List.mem_cons_self, unchanged ▸ same⟩
      · rcases ih restDistinct later with ⟨kept, other⟩ | ⟨old, source, changed⟩
        · exact .inl ⟨List.mem_cons_of_mem first kept, other⟩
        · refine .inr ⟨old, ?_, changed⟩
          rcases source with ⟨present, under⟩ | ⟨absent, created⟩
          · exact .inl ⟨List.mem_cons_of_mem first present, under⟩
          · refine .inr ⟨?_, created⟩
            intro found
            rcases List.mem_cons.mp found with here | there
            · exact same here.symm
            · exact absent there

theorem find?_key {items : List α} (distinct : (items.map key).Nodup) (member : item ∈ items) :
    items.find? (key · = key item) = some item := by
  induction items with
  | nil => cases member
  | cons first rest ih =>
    obtain ⟨firstNew, restDistinct⟩ := List.nodup_cons.mp distinct
    rcases List.mem_cons.mp member with rfl | later
    · simp
    · have different : key first ≠ key item := fun same =>
        firstNew (List.mem_map.mpr ⟨item, later, same.symm⟩)
      simp [different, ih restDistinct later]

end TypedClient.Keyed
