import Mathlib.Data.Nat.Init
import Mathlib.Order.Bounds.Defs
import TypedClient.Proofs.Name.Fresh

namespace TypedClient

/-- A search that looks at a candidate, and at the next number when that is taken, ends with a name. -/
inductive Search (base : String) (taken : List String) : String → Nat → String → Prop where
  | free (absent : candidate ∉ taken) : Search base taken candidate next candidate
  | onward (present : candidate ∈ taken)
      (later : Search base taken (base ++ toString next) (next + 1) found) :
      Search base taken candidate next found

/-- A search ends with one name only. -/
theorem Search.unique (search : Search base taken candidate next found)
    (other : Search base taken candidate next result) : result = found := by
  induction search with
  | free absent =>
    cases other with
    | free => rfl
    | onward present => exact absurd present absent
  | onward present _ ih =>
    cases other with
    | free absent => exact absurd present absent
    | onward _ later => exact ih later

/-- A search goes past numbers that are taken to the first one that is free. -/
theorem Search.of_below (bound : start ≤ number) (absent : base ++ toString number ∉ taken)
    (below : ∀ smaller, start ≤ smaller → smaller < number → base ++ toString smaller ∈ taken) :
    Search base taken (base ++ toString start) (start + 1) (base ++ toString number) := by
  -- Each round leads one number further up, so the induction comes down from the last round.
  induction bound using Nat.decreasingInduction with
  | self => exact .free absent
  | of_succ start smaller ih =>
    have later := ih fun other bound => below other (Nat.le_of_succ_le bound)
    exact .onward (below start (Nat.le_refl start) smaller) later

theorem freshNumber_le {base : String} {taken : List String} (present : base ∈ taken) :
    freshNumber base taken ≤ taken.eraseDups.length + 1 := by
  obtain ⟨index, bound, free⟩ := exists_free_number present
  have reached : freshNumber base taken ≤ index + 2 := by
    apply Nat.le_of_not_lt
    intro passed
    exact free (mem_of_lt_freshNumber (Nat.le_add_left 2 index) passed)
  omega

/-- The number of a fresh name is the least one from two on that is free. -/
theorem isLeast_freshNumber {base : String} {taken : List String} (present : base ∈ taken) :
    IsLeast {number | 2 ≤ number ∧ base ++ toString number ∉ taken} (freshNumber base taken) := by
  refine ⟨⟨two_le_freshNumber base taken, freshNumber_free present⟩, ?_⟩
  rintro number ⟨two, absent⟩
  apply Nat.le_of_not_lt
  intro passed
  exact absent (mem_of_lt_freshNumber two passed)

/-- The search ends with the fresh name. -/
theorem search_freshName (base : String) (taken : List String) :
    Search base taken base 2 (freshName base taken) := by
  unfold freshName
  split
  · rename_i present
    have member := List.contains_iff_mem.mp present
    refine .onward member (.of_below (two_le_freshNumber base taken) (freshNumber_free member) ?_)
    exact fun _ two smaller => mem_of_lt_freshNumber two smaller
  · rename_i free
    exact .free (by simpa using free)

/-- Whatever names are taken, the search from a name on ends, and with one name only, which is free: with
the name itself if that is free, and otherwise with the name and the least free number from two on behind
it. That number is at most one more than there are different taken names. -/
theorem search_iff (base : String) (taken : List String) :
    (∀ found, Search base taken base 2 found ↔ found = freshName base taken) ∧
      freshName base taken ∉ taken ∧
      (base ∉ taken → freshName base taken = base) ∧
      (base ∈ taken → ∃ number, freshName base taken = base ++ toString number ∧
        IsLeast {number | 2 ≤ number ∧ base ++ toString number ∉ taken} number ∧
        number ≤ taken.eraseDups.length + 1) := by
  refine ⟨fun found => ⟨(search_freshName base taken).unique, ?_⟩, freshName_not_mem base taken, ?_, ?_⟩
  · rintro rfl
    exact search_freshName base taken
  · intro absent
    simp [freshName, absent]
  · intro present
    have named : freshName base taken = base ++ toString (freshNumber base taken) := by
      simp [freshName, present]
    exact ⟨freshNumber base taken, named, isLeast_freshNumber present, freshNumber_le present⟩

example : freshName "idQuery" ["idQuery", "id", "idQuery2", "id", "idQuery4"] = "idQuery3" := by
  decide +kernel

end TypedClient
