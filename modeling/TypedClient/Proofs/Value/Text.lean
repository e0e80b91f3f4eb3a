import Mathlib.Data.Finset.Card
import TypedClient.Proofs.Value.Parts
import TypedClient.Value.Text

/-!
Texts of values are whole. On the way into a value each level uses up one of its parts: a collection in a
table is not entered again, and any other value has more parts than what it holds. So there are enough
levels, and further ones change nothing.
-/

namespace TypedClient.Value

/-! ### Fewer parts -/

theorem length_le_flatMap {items : List α} {f : α → List β} (member : item ∈ items) :
    (f item).length ≤ (items.flatMap f).length :=
  (List.sublist_flatten_of_mem (List.mem_map_of_mem member)).length_le

theorem length_partsOfItems_atoms (atoms : List Atom) :
    (partsOfItems (atoms.map Atom.value)).length = atoms.length := by
  induction atoms with
  | nil => rfl
  | cons atom rest ih => simp [partsOfItems, ih]

/-- What a table holds has at most as many parts as a collection in the table. -/
theorem length_parts_le_values {objects : Array Object} (inside : value ∈ Knot.values objects) :
    value.parts.length ≤ (Knot.values objects).length + 1 := by
  have alone (parts : value.parts = [value]) : value.parts.length ≤ (Knot.values objects).length + 1 := by
    rw [parts]
    exact Nat.le_add_left 1 _
  rcases List.mem_cons.mp inside with rfl | inside
  · exact alone rfl
  obtain ⟨⟨object, place⟩, present, inside⟩ := List.mem_flatMap.mp inside
  have here : (Knot.member objects place :: Knot.ownValues objects place object).length ≤
      (Knot.values objects).length :=
    Nat.le_succ_of_le (length_le_flatMap
      (f := fun entry => Knot.member objects entry.2 :: Knot.ownValues objects entry.2 entry.1) present)
  have found : objects[place]? = some object := by
    simpa using List.mk_mem_zipIdx_iff_getElem?.mp present
  rcases List.mem_cons.mp inside with rfl | own
  · cases object with
    | plain atom => exact alone (by simp [Knot.member, found])
    | set atoms =>
      rw [List.length_cons, Knot.ownValues, List.length_map] at here
      simp only [Knot.member, found, parts, List.length_cons, length_partsOfItems_atoms]
      omega
    | _ => simp [Knot.member, found, parts]
  · cases object with
    | plain | list => cases own
    | mapping entries =>
      obtain ⟨entry, _, rfl⟩ := List.mem_map.mp own
      exact alone (parts_atom _)
    | set atoms =>
      obtain ⟨atom, _, rfl⟩ := List.mem_map.mp own
      exact alone (parts_atom _)
    | pairs entries =>
      obtain ⟨index, _, rfl⟩ := List.mem_map.mp own
      simp [parts]

/-- The parts of a value that stands in no table are the value and the parts of what it holds. -/
theorem mem_parts_cases {value part : Value} (outside : ∀ collection, value ≠ .knot collection)
    (isPart : part ∈ value.parts) : part = value ∨ ∃ member ∈ value.members, part ∈ member.parts := by
  cases value with
  | list items | set items =>
    rw [parts] at isPart
    exact (List.mem_cons.mp isPart).imp_right mem_partsOfItems.mp
  | mapping entries =>
    rw [parts] at isPart
    refine (List.mem_cons.mp isPart).imp_right fun inside => ?_
    obtain ⟨entry, present, inKey | inValue⟩ := mem_partsOfEntries.mp inside
    · exact ⟨_, List.mem_append_left _ (List.mem_map_of_mem present), inKey⟩
    · exact ⟨_, List.mem_append_right _ (List.mem_map_of_mem present), inValue⟩
  | pair key value =>
    rw [parts] at isPart
    refine (List.mem_cons.mp isPart).imp_right fun inside => ?_
    rcases List.mem_append.mp inside with inKey | inValue
    · exact ⟨key, List.mem_cons_self, inKey⟩
    · exact ⟨value, List.mem_cons_of_mem _ List.mem_cons_self, inValue⟩
  | knot collection => exact absurd rfl (outside collection)
  | _ => exact .inl (List.mem_singleton.mp isPart)

/-- A part has at most as many parts as the whole. -/
theorem length_parts_le {value part : Value} (isPart : part ∈ value.parts) :
    part.parts.length ≤ value.parts.length := by
  induction size : value.parts.length using Nat.strongRecOn generalizing value with
  | ind size ih =>
    by_cases outside : ∀ collection, value ≠ .knot collection
    · rcases mem_parts_cases outside isPart with rfl | ⟨member, held, further⟩
      · exact Nat.le_of_eq size
      · have smaller := size ▸ length_parts_lt outside held
        exact Nat.le_of_lt (Nat.lt_of_le_of_lt (ih _ smaller further rfl) smaller)
    · obtain ⟨collection, same⟩ := Classical.not_forall_not.mp outside
      subst same
      rw [parts] at isPart size
      rw [← size, List.length_cons]
      rcases List.mem_cons.mp isPart with rfl | inside
      · simp [parts]
      · exact length_parts_le_values inside

/-- A value that stands in no table is no part of what it holds. -/
theorem notMem_parts_of_members {value inner : Value} (outside : ∀ collection, value ≠ .knot collection)
    (member : inner ∈ value.members) : value ∉ inner.parts :=
  fun isPart => Nat.not_le_of_lt (length_parts_lt outside member) (length_parts_le isPart)

/-! ### Levels -/

theorem mapM_congr {items : List α} {f g : α → Option β} (agree : ∀ item ∈ items, f item = g item) :
    items.mapM f = items.mapM g := by
  induction items with
  | nil => rfl
  | cons item rest ih =>
    obtain ⟨here, others⟩ := List.forall_mem_cons.mp agree
    rw [List.mapM_cons, List.mapM_cons, here, ih others]

theorem quotedBy_congr {first second : Value → Option String} {value : Value}
    (agree : ∀ part ∈ value.members, first part = second part) :
    quotedBy first value = quotedBy second value := by
  unfold members at agree
  unfold quotedBy
  cases opened : value.opened with
  | list items =>
    simp only [opened] at agree ⊢
    rw [mapM_congr agree]
  | mapping entries =>
    simp only [opened] at agree ⊢
    obtain ⟨keys, values⟩ := List.forall_mem_append.mp agree
    refine congrArg _ (mapM_congr fun entry present => ?_)
    rw [keys _ (List.mem_map_of_mem present), values _ (List.mem_map_of_mem present)]
  | set items =>
    cases items with
    | nil => rfl
    | cons item rest =>
      simp only [opened] at agree ⊢
      rw [mapM_congr agree]
  | pair key value =>
    simp only [opened] at agree ⊢
    rw [mapM_congr agree]
  | _ => rfl

section

open scoped Classical in
/-- The parts of a value that are not being written. -/
noncomputable def pending (writing : List Knot) (value : Value) : Finset Value :=
  value.parts.toFinset.filter fun part => part ∉ writing.map Value.knot

theorem mem_pending {writing : List Knot} {value : Value} :
    part ∈ pending writing value ↔ part ∈ value.parts ∧ part ∉ writing.map Value.knot := by
  classical
  simp [pending]

/-- Entering a value uses up a part: the value itself. -/
theorem card_pending_lt {value inner : Value} {writing further : List Knot}
    (member : inner ∈ value.members) (here : value ∉ writing.map Value.knot)
    (more : ∀ part, part ∉ further.map Value.knot → part ∉ writing.map Value.knot)
    (used : value ∉ pending further inner) :
    (pending further inner).card < (pending writing value).card := by
  refine Finset.card_lt_card ⟨fun part isPending => ?_, fun all => ?_⟩
  · obtain ⟨isPart, free⟩ := mem_pending.mp isPending
    have inValue := parts_subset (mem_parts_of_members (mem_parts_self value) member) isPart
    exact mem_pending.mpr ⟨inValue, more part free⟩
  · exact used (all (mem_pending.mpr ⟨mem_parts_self value, here⟩))

/-- The text of a value is the same on all levels from the number of its pending parts on. -/
theorem quotedWithin_congr {value : Value} {writing : List Knot}
    (enough : (pending writing value).card < levels) (further : (pending writing value).card < other) :
    quotedWithin levels writing value = quotedWithin other writing value := by
  induction levels generalizing other writing value with
  | zero => cases enough
  | succ levels ih =>
    obtain ⟨other, rfl⟩ := Nat.exists_eq_succ_of_ne_zero (Nat.ne_zero_of_lt further)
    by_cases outside : ∀ collection, value ≠ .knot collection
    · have here : value ∉ writing.map Value.knot := by
        intro member
        obtain ⟨collection, _, same⟩ := List.mem_map.mp member
        exact outside collection same.symm
      have same : quotedBy (quotedWithin levels writing) value = quotedBy (quotedWithin other writing) value :=
        quotedBy_congr fun inner member => by
          have fewer := card_pending_lt member here (fun _ => id)
            fun isPending => notMem_parts_of_members outside member (mem_pending.mp isPending).1
          exact ih (by omega) (by omega)
      cases value with
      | knot collection => exact absurd rfl (outside collection)
      | _ => exact same
    · obtain ⟨collection, rfl⟩ := Classical.not_forall_not.mp outside
      rw [quotedWithin, quotedWithin]
      split
      · rfl
      · rename_i free
        have here : Value.knot collection ∉ writing.map Value.knot := by simpa using free
        refine quotedBy_congr fun inner member => ?_
        have held : inner ∈ (Value.knot collection).members := members_opened (.knot collection) ▸ member
        have fewer : (pending (collection :: writing) inner).card < (pending writing (.knot collection)).card :=
          card_pending_lt held here (by simp) fun isPending => by simpa using (mem_pending.mp isPending).2
        exact ih (by omega) (by omega)

/-- Further levels do not change the text of a value. -/
theorem quotedWithin_eq {value : Value} (enough : value.parts.length + 1 ≤ levels) :
    quotedWithin levels [] value = value.quoted? := by
  have few : (pending [] value).card ≤ value.parts.length := by
    classical
    exact Nat.le_trans (Finset.card_filter_le _ _) (List.toFinset_card_le _)
  exact quotedWithin_congr (by omega) (by omega)

end

end TypedClient.Value
