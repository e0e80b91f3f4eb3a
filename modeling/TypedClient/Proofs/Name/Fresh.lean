import TypedClient.Name.Identifier
import TypedClient.Proofs.Distinct

namespace TypedClient

theorem numbered_injective {base : String} {first second : Nat}
    (same : base ++ toString first = base ++ toString second) : first = second := by
  have digits : Nat.toDigits 10 first = Nat.toDigits 10 second := by
    simpa using congrArg String.toList same
  have numbers := congrArg (Nat.ofDigitChars 10 · 0) digits
  simpa using numbers

theorem numbered_ne_base (base : String) (number : Nat) : base ++ toString number ≠ base := by
  intro same
  simpa using congrArg String.toList same

/-- Of the numbered forms of a taken name one is free, at the latest behind all taken names. -/
theorem exists_free_number {base : String} {taken : List String} (present : base ∈ taken) :
    ∃ index < taken.eraseDups.length, base ++ toString (index + 2) ∉ taken := by
  apply Classical.byContradiction
  intro allTaken
  let numbered := (List.range taken.eraseDups.length).map fun index => base ++ toString (index + 2)
  have unique : (base :: numbered).Nodup := by
    apply List.nodup_cons.mpr
    constructor
    · intro member
      obtain ⟨index, _, same⟩ := List.mem_map.mp member
      exact numbered_ne_base base _ same
    · apply List.Pairwise.map _ _ List.nodup_range
      intro first second different same
      exact different (Nat.add_right_cancel (numbered_injective same))
  have subset : base :: numbered ⊆ taken.eraseDups := by
    intro name member
    rw [List.mem_eraseDups]
    rcases List.mem_cons.mp member with same | inNumbered
    · exact same ▸ present
    · obtain ⟨index, inRange, rfl⟩ := List.mem_map.mp inNumbered
      apply Classical.byContradiction
      intro free
      exact allTaken ⟨index, List.mem_range.mp inRange, free⟩
  have bound := unique.length_le_of_subset subset
  simp only [List.length_cons, numbered, List.length_map, List.length_range] at bound
  omega

/-- The search takes the numbers from two on in order. It stops at a free one, or behind as many numbers
as there are taken names. -/
theorem exists_index_freshNumber (base : String) (taken : List String) :
    ∃ index, freshNumber base taken = index + 2 ∧
      (∀ smaller < index, base ++ toString (smaller + 2) ∈ taken) ∧
      (index = taken.length ∨ base ++ toString (index + 2) ∉ taken) := by
  rw [freshNumber, List.find?_map]
  cases found : (List.range taken.length).find?
      ((fun number => !taken.contains (base ++ toString number)) ∘ (· + 2)) with
  | none =>
    refine ⟨taken.length, rfl, fun smaller bound => ?_, .inl rfl⟩
    have passed := List.find?_range_eq_none.mp found smaller bound
    simpa using passed
  | some index =>
    obtain ⟨accepted, _, earlier⟩ := List.find?_range_eq_some.mp found
    refine ⟨index, rfl, fun smaller bound => ?_, .inr (by simpa using accepted)⟩
    have passed := earlier smaller bound
    simpa using passed

theorem freshNumber_free {base : String} {taken : List String} (present : base ∈ taken) :
    base ++ toString (freshNumber base taken) ∉ taken := by
  obtain ⟨index, number, passed, stops⟩ := exists_index_freshNumber base taken
  rw [number]
  rcases stops with rfl | free
  · -- So many numbers cannot all be taken.
    obtain ⟨other, bound, free⟩ := exists_free_number present
    have distinctBound := (Distinct.nodup_eraseDups taken).length_le_of_subset
      fun name member => List.mem_eraseDups.mp member
    exact absurd (passed other (Nat.lt_of_lt_of_le bound distinctBound)) free
  · exact free

theorem two_le_freshNumber (base : String) (taken : List String) : 2 ≤ freshNumber base taken := by
  obtain ⟨index, number, _⟩ := exists_index_freshNumber base taken
  omega

theorem mem_of_lt_freshNumber (two : 2 ≤ number) (smaller : number < freshNumber base taken) :
    base ++ toString number ∈ taken := by
  obtain ⟨index, last, passed, _⟩ := exists_index_freshNumber base taken
  obtain ⟨earlier, rfl⟩ := Nat.exists_eq_add_of_le' two
  exact passed earlier (by omega)

theorem freshName_not_mem (base : String) (taken : List String) : freshName base taken ∉ taken := by
  unfold freshName
  split
  · rename_i present
    exact freshNumber_free (List.contains_iff_mem.mp present)
  · rename_i free
    simpa using free

/-- A fresh name is the base, or the base with a number from two on behind it. -/
theorem freshName_cases (base : String) (taken : List String) :
    freshName base taken = base ∨ ∃ number ≥ 2, freshName base taken = base ++ toString number := by
  unfold freshName
  split
  · exact .inr ⟨freshNumber base taken, two_le_freshNumber base taken, rfl⟩
  · exact .inl rfl

/-- A fresh name is the base, perhaps with digits behind it. -/
theorem toList_freshName (base : String) (taken : List String) :
    ∃ digits, (freshName base taken).toList = base.toList ++ digits ∧
      ∀ c ∈ digits, c.isDigit = true := by
  unfold freshName
  split
  · refine ⟨(toString (freshNumber base taken)).toList, String.toList_append, ?_⟩
    intro c member
    simp only [Nat.toString_eq_repr, Nat.toList_repr] at member
    exact Nat.isDigit_of_mem_toDigits (by decide) (by decide) member
  · exact ⟨[], by simp, by simp⟩

end TypedClient
