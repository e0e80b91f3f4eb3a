import Mathlib.Data.List.Induction
import TypedClient.Basic

namespace TypedClient

theorem mem_of_mem_upsert {entry : κ × α} (member : entry ∈ upsert same key value entries) :
    entry.2 = value ∨ entry ∈ entries := by
  induction entries with
  | nil => exact .inl (congrArg Prod.snd (List.mem_singleton.mp member))
  | cons first rest ih =>
    unfold upsert at member
    split at member
    · rcases List.mem_cons.mp member with rfl | later
      · exact .inl rfl
      · exact .inr (List.mem_cons_of_mem first later)
    · rcases List.mem_cons.mp member with rfl | later
      · exact .inr List.mem_cons_self
      · exact (ih later).imp id (List.mem_cons_of_mem first)

/-- A value that stands after all writes is one of those that were written. -/
theorem mem_of_mem_collapse {entry : κ × α} (member : entry ∈ collapse same entries) :
    ∃ source ∈ entries, source.2 = entry.2 := by
  have general : ∀ (entries written : List (κ × α)),
      entry ∈ entries.foldl (fun written entry => upsert same entry.1 entry.2 written) written →
        entry ∈ written ∨ ∃ source ∈ entries, source.2 = entry.2 := by
    intro entries
    induction entries with
    | nil => exact fun _ => .inl
    | cons first rest ih =>
      intro written member
      rcases ih _ member with before | ⟨source, present, same⟩
      · rcases mem_of_mem_upsert before with here | earlier
        · exact .inr ⟨first, List.mem_cons_self, here.symm⟩
        · exact .inl earlier
      · exact .inr ⟨source, List.mem_cons_of_mem first present, same⟩
  exact (general entries [] member).resolve_left List.not_mem_nil

theorem collapse_concat (same : κ → κ → Bool) (entries : List (κ × α)) (entry : κ × α) :
    collapse same (entries ++ [entry]) = upsert same entry.1 entry.2 (collapse same entries) := by
  simp [collapse]

/-- A key stays in its place, and a new one comes last. -/
theorem map_fst_upsert (same : κ → κ → Bool) (key : κ) (value : α) (entries : List (κ × α)) :
    (upsert same key value entries).map (·.1) =
      if entries.any (fun entry => same entry.1 key) then entries.map (·.1)
      else entries.map (·.1) ++ [key] := by
  induction entries with
  | nil => rfl
  | cons first rest ih =>
    by_cases here : same first.1 key = true
    · simp [upsert, here]
    · simp only [upsert, here, Bool.false_eq_true, ↓reduceIte, List.map_cons, ih, List.any_cons,
        Bool.false_or]
      split <;> rfl

/-- The keys after all writes are keys that were written, and none of them is the same as an earlier
one. -/
theorem keys_collapse (same : κ → κ → Bool) (entries : List (κ × α)) :
    (∀ key ∈ (collapse same entries).map (·.1), key ∈ entries.map (·.1)) ∧
      ((collapse same entries).map (·.1)).Pairwise fun first second => same first second = false := by
  induction entries using List.reverseRecOn with
  | nil => simp [collapse]
  | append_singleton entries entry ih =>
    obtain ⟨written, apart⟩ := ih
    rw [collapse_concat, map_fst_upsert]
    split
    · refine ⟨fun key member => ?_, apart⟩
      rw [List.map_append]
      exact List.mem_append_left _ (written key member)
    · rename_i absent
      constructor
      · intro key member
        rw [List.map_append]
        exact (List.mem_append.mp member).elim (fun old => List.mem_append_left _ (written key old))
          fun last => List.mem_append_right _ last
      · refine List.pairwise_append.mpr ⟨apart, List.pairwise_singleton _ _, ?_⟩
        intro key member last isLast
        obtain ⟨earlier, present, rfl⟩ := List.mem_map.mp member
        rw [List.mem_singleton.mp isLast]
        exact Bool.eq_false_iff.mpr fun equal => absent (List.any_eq_true.mpr ⟨earlier, present, equal⟩)

variable [BEq κ] [LawfulBEq κ]

theorem lookup_upsert (key : κ) (value : α) (entries : List (κ × α)) (other : κ) :
    (upsert (· == ·) key value entries).lookup other =
      if other == key then some value else entries.lookup other := by
  induction entries with
  | nil => cases same : other == key <;> simp [upsert, List.lookup_cons, same]
  | cons entry rest ih =>
    obtain ⟨first, old⟩ := entry
    cases here : first == key with
    | true =>
      obtain rfl := eq_of_beq here
      cases same : other == first <;> simp [upsert, List.lookup_cons, same]
    | false =>
      cases found : other == first with
      | true =>
        obtain rfl := eq_of_beq found
        simp [upsert, here]
      | false => simp [upsert, here, List.lookup_cons, found, ih]

theorem upsert_of_not_mem {entries : List (κ × α)} (absent : key ∉ entries.map (·.1)) (value : α) :
    upsert (· == ·) key value entries = entries ++ [(key, value)] := by
  induction entries with
  | nil => rfl
  | cons entry rest ih =>
    obtain ⟨first, old⟩ := entry
    obtain ⟨other, restAbsent⟩ := List.ne_and_not_mem_of_not_mem_cons absent
    simp [upsert, Ne.symm other, ih restAbsent]

/-- Of two writes to one key only the second one counts. -/
theorem upsert_upsert (key : κ) (first second : α) (entries : List (κ × α)) :
    upsert (· == ·) key second (upsert (· == ·) key first entries) =
      upsert (· == ·) key second entries := by
  induction entries with
  | nil => simp [upsert]
  | cons entry rest ih =>
    obtain ⟨name, old⟩ := entry
    cases here : name == key with
    | true => simp [upsert, here]
    | false => simp [upsert, here, ih]

/-- Writes to different keys can change places when one of the keys is there: it keeps its place. -/
theorem upsert_comm {key other : κ} (different : key ≠ other) {entries : List (κ × α)}
    (present : (entries.lookup key).isSome) (value otherValue : α) :
    upsert (· == ·) other otherValue (upsert (· == ·) key value entries) =
      upsert (· == ·) key value (upsert (· == ·) other otherValue entries) := by
  induction entries with
  | nil => cases present
  | cons entry rest ih =>
    obtain ⟨name, old⟩ := entry
    by_cases here : name = key
    · subst here
      simp [upsert, different]
    · have further : (rest.lookup key).isSome := by
        simpa [List.lookup_cons, beq_false_of_ne (Ne.symm here)] using present
      by_cases there : name = other
      · simp [upsert, there, Ne.symm different]
      · simp [upsert, here, there, ih further]

/-- Writing the value that a key has changes nothing. -/
theorem upsert_eq_self {entries : List (κ × α)} (found : entries.lookup key = some value) :
    upsert (· == ·) key value entries = entries := by
  induction entries with
  | nil => cases found
  | cons entry rest ih =>
    obtain ⟨name, old⟩ := entry
    by_cases here : name = key
    · subst here
      have same : old = value := by simpa using found
      simp [upsert, same]
    · have further : rest.lookup key = some value := by
        simpa [List.lookup_cons, beq_false_of_ne (Ne.symm here)] using found
      simp [upsert, here, ih further]

/-- Entries under distinct keys stay the entries that they are. -/
theorem collapse_of_nodup {entries : List (κ × α)} (distinct : (entries.map (·.1)).Nodup) :
    collapse (· == ·) entries = entries := by
  have general : ∀ written : List (κ × α), ((written ++ entries).map (·.1)).Nodup →
      entries.foldl (fun written entry => upsert (· == ·) entry.1 entry.2 written) written =
        written ++ entries := by
    clear distinct
    induction entries with
    | nil => simp
    | cons entry rest ih =>
      intro written distinct
      have absent : entry.1 ∉ written.map (·.1) := by
        rw [List.map_append, List.map_cons] at distinct
        exact fun present => (List.nodup_append.mp distinct).2.2 _ present _ List.mem_cons_self rfl
      rw [List.foldl_cons, upsert_of_not_mem absent, ih _ (by simpa using distinct)]
      simp
  simpa [collapse] using general [] (by simpa using distinct)

end TypedClient
