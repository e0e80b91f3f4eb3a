import Mathlib.Data.List.Induction

namespace TypedClient.Distinct

variable [DecidableEq α]

theorem eraseDups_concat (items : List α) (item : α) :
    (items ++ [item]).eraseDups =
      if item ∈ items then items.eraseDups else items.eraseDups ++ [item] := by
  rw [List.eraseDups_append]
  by_cases present : item ∈ items
  · have known : [item].removeAll items = [] := by simp [List.removeAll, present]
    simp [known, present]
  · have fresh : [item].removeAll items = [item] := by simp [List.removeAll, present]
    simp [fresh, present, List.eraseDups_cons]

theorem nodup_eraseDups (items : List α) : items.eraseDups.Nodup := by
  induction items using List.reverseRecOn with
  | nil => simp
  | append_singleton items item ih =>
    rw [eraseDups_concat]
    split
    · exact ih
    · rename_i absent
      refine List.nodup_append.mpr ⟨ih, by simp, ?_⟩
      intro other member added addedMember same
      rw [List.mem_singleton.mp addedMember] at same
      exact absent (List.mem_eraseDups.mp (same ▸ member))

theorem eraseDups_eq_self {items : List α} (distinct : items.Nodup) : items.eraseDups = items := by
  induction items using List.reverseRecOn with
  | nil => simp
  | append_singleton items item ih =>
    obtain ⟨initial, _, apart⟩ := List.nodup_append.mp distinct
    have absent : item ∉ items := fun member => apart item member item (by simp) rfl
    rw [eraseDups_concat, if_neg absent, ih initial]

/-- A new element comes first, and it is known in what follows. -/
theorem eraseDups_filter_cons {item : α} {items known : List α} (fresh : item ∉ known) :
    ((item :: items).filter (· ∉ known)).eraseDups =
      item :: (items.filter (· ∉ item :: known)).eraseDups := by
  rw [List.filter_cons_of_pos (by simpa using fresh), List.eraseDups_cons, List.filter_filter]
  congr 2
  apply List.filter_congr
  intro other _
  by_cases same : other = item <;> simp [same]

end TypedClient.Distinct
