import Mathlib.Data.List.Basic

/-!
Items in the order of the places where they stand. A place has an address, a list of numbers that leads
there from the outside, and a walk through all places in order meets the addresses in lexicographic
order.
-/

namespace TypedClient

/-- The items are all that stand at addresses, one for every address, in the order of addresses. -/
def Enumerates (stands : List Nat → α → Prop) (items : List α) : Prop :=
  ∃ placed : List (List Nat × α),
    placed.map (·.2) = items ∧ (placed.map (·.1)).Pairwise (· < ·) ∧
      ∀ address item, (address, item) ∈ placed ↔ stands address item

namespace Enumerates

variable {stands other : List Nat → α → Prop}

theorem congr (enumerates : Enumerates stands items)
    (same : ∀ address item, stands address item ↔ other address item) : Enumerates other items := by
  obtain ⟨placed, image, ascending, all⟩ := enumerates
  exact ⟨placed, image, ascending, fun address item => (all address item).trans (same address item)⟩

theorem nil (nothing : ∀ address item, ¬stands address item) : Enumerates stands [] :=
  ⟨[], rfl, .nil, fun address item => iff_of_false List.not_mem_nil (nothing address item)⟩

theorem single (item : α) : Enumerates (fun address found => address = [] ∧ found = item) [item] :=
  ⟨[([], item)], rfl, List.pairwise_singleton _ _, fun address found => by simp⟩

theorem append (first : Enumerates stands items) (second : Enumerates other more)
    (ordered : ∀ {address item later further}, stands address item → other later further →
      address < later) :
    Enumerates (fun address item => stands address item ∨ other address item) (items ++ more) := by
  obtain ⟨placed, rfl, ascending, all⟩ := first
  obtain ⟨added, rfl, addedAscending, addedAll⟩ := second
  refine ⟨placed ++ added, List.map_append, ?_, fun address item => ?_⟩
  · rw [List.map_append, List.pairwise_append]
    refine ⟨ascending, addedAscending, ?_⟩
    intro address member later laterMember
    obtain ⟨⟨_, item⟩, present, rfl⟩ := List.mem_map.mp member
    obtain ⟨⟨_, further⟩, laterPresent, rfl⟩ := List.mem_map.mp laterMember
    exact ordered ((all _ item).mp present) ((addedAll _ further).mp laterPresent)
  · rw [List.mem_append, all, addedAll]

/-- The places inside a larger one: their addresses begin with its number. -/
theorem inside (inner : Enumerates stands items) (index : Nat) :
    Enumerates (fun address item => ∃ rest, address = index :: rest ∧ stands rest item) items := by
  obtain ⟨placed, rfl, ascending, all⟩ := inner
  refine ⟨placed.map fun (address, item) => (index :: address, item), ?_, ?_, fun address item => ?_⟩
  · rw [List.map_map]
    rfl
  · rw [List.map_map, List.pairwise_map]
    refine (List.pairwise_map.mp ascending).imp fun {first second} smaller => ?_
    exact List.cons_lt_cons_iff.mpr (.inr ⟨rfl, smaller⟩)
  · simp only [List.mem_map, Prod.exists, Prod.mk.injEq, ← all]
    constructor
    · rintro ⟨rest, _, present, rfl, rfl⟩
      exact ⟨rest, rfl, present⟩
    · rintro ⟨rest, rfl, present⟩
      exact ⟨rest, item, present, rfl, rfl⟩

theorem map (enumerates : Enumerates stands items) (image : α → β) :
    Enumerates (fun address result => ∃ item, stands address item ∧ image item = result)
      (items.map image) := by
  obtain ⟨placed, rfl, ascending, all⟩ := enumerates
  refine ⟨placed.map fun (address, item) => (address, image item), ?_, ?_, fun address result => ?_⟩
  · rw [List.map_map, List.map_map]
    rfl
  · rwa [List.map_map]
  · simp only [List.mem_map, Prod.exists, Prod.mk.injEq, ← all]
    constructor
    · rintro ⟨_, item, present, rfl, rfl⟩
      exact ⟨item, present, rfl⟩
    · rintro ⟨item, present, rfl⟩
      exact ⟨address, item, present, rfl, rfl⟩

/-- The items of one kind stand where they stood. -/
theorem filter (enumerates : Enumerates stands items) (kind : α → Prop) [DecidablePred kind] :
    Enumerates (fun address item => stands address item ∧ kind item) (items.filter kind) := by
  obtain ⟨placed, rfl, ascending, all⟩ := enumerates
  refine ⟨placed.filter fun place => kind place.2, ?_, ?_, fun address item => ?_⟩
  · rw [List.filter_map]
    rfl
  · exact ascending.sublist (List.filter_sublist.map _)
  · rw [List.mem_filter, all, decide_eq_true_iff]

/-- A walk through the parts of a list, one after another. -/
theorem flatMap {parts : List β} {standsIn : β → List Nat → α → Prop} {items : β → List α}
    (each : ∀ part ∈ parts, Enumerates (standsIn part) (items part)) :
    Enumerates (fun address item => ∃ index rest part,
      address = index :: rest ∧ parts[index]? = some part ∧ standsIn part rest item)
      (parts.flatMap items) := by
  -- The later parts are numbered from one further on, so the first number varies in the induction.
  have general : ∀ start, Enumerates (fun address item => ∃ index rest part,
      address = (start + index) :: rest ∧ parts[index]? = some part ∧ standsIn part rest item)
      (parts.flatMap items) := by
    induction parts with
    | nil => exact fun start => .nil (by simp)
    | cons part parts ih =>
      intro start
      have here := (each part List.mem_cons_self).inside start
      have there := ih (fun later member => each later (List.mem_cons_of_mem part member)) (start + 1)
      refine (here.append there ?_).congr fun address item => ?_
      · rintro _ _ _ _ ⟨rest, rfl, _⟩ ⟨index, other, _, rfl, _⟩
        exact List.cons_lt_cons_iff.mpr (.inl (by omega))
      · constructor
        · rintro (⟨rest, rfl, found⟩ | ⟨index, rest, later, rfl, present, found⟩)
          · exact ⟨0, rest, part, rfl, rfl, found⟩
          · exact ⟨index + 1, rest, later, by rw [Nat.add_right_comm, Nat.add_assoc], present, found⟩
        · rintro ⟨index, rest, found, rfl, present, standing⟩
          cases index with
          | zero =>
            cases present
            exact .inl ⟨rest, rfl, standing⟩
          | succ index =>
            exact .inr ⟨index, rest, found, by rw [Nat.add_right_comm, Nat.add_assoc], present, standing⟩
  simpa only [Nat.zero_add] using general 0

/-- A walk through what an option holds. -/
theorem option {held : Option β} {standsIn : β → List Nat → α → Prop} {items : β → List α}
    (each : ∀ part ∈ held, Enumerates (standsIn part) (items part)) :
    Enumerates (fun address item => ∃ part, held = some part ∧ standsIn part address item)
      (held.toList.flatMap items) := by
  cases held with
  | none => exact .nil (by simp)
  | some part => simpa using each part rfl

end Enumerates

end TypedClient
