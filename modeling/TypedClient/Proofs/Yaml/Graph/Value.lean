import Mathlib.Data.List.Forall2
import TypedClient.Proofs.Yaml.Graph.Object
import TypedClient.Yaml.Graph.Value

namespace TypedClient.Yaml

namespace Valuation

/-- The objects are proper, and so are the values that are known. -/
structure IsProper (valuation : Valuation) : Prop where
  objects : AreProper valuation.objects
  values : ∀ place value, valuation.value? place = some value → value.IsProper

theorem isProper_ofObjects {objects : Array (Option Object)} (proper : AreProper objects) :
    (ofObjects objects).IsProper where
  objects := proper
  values := by
    intro place value found
    rw [value?, ofObjects, Array.getD_eq_getD_getElem?, Array.getElem?_replicate] at found
    split at found <;> cases found

variable {valuation : Valuation}

/-- What all steps give, one by one. -/
theorem forall₂_of_mapM {items : List α} {step : α → Option β} {results : List β}
    (found : items.mapM step = some results) :
    List.Forall₂ (fun item result => step item = some result) items results := by
  induction items generalizing results with
  | nil =>
    cases found
    exact .nil
  | cons item rest ih =>
    rw [List.mapM_cons] at found
    obtain ⟨first, made, found⟩ := Option.bind_eq_some_iff.mp found
    obtain ⟨others, othersMade, whole⟩ := Option.bind_eq_some_iff.mp found
    cases whole
    exact .cons made (ih othersMade)

theorem forall_of_mapM {items : List α} {step : α → Option β} {results : List β} {kind : β → Prop}
    (found : items.mapM step = some results) (holds : ∀ item result, step item = some result → kind result) :
    ∀ result ∈ results, kind result := by
  have each := forall₂_of_mapM found
  clear found
  induction each with
  | nil => simp
  | cons made _ ih => exact List.forall_mem_cons.mpr ⟨holds _ _ made, ih⟩

theorem entryValue?_eq_some {entry : Atom × Nat} {pair : Value × Value} :
    valuation.entryValue? entry = some pair ↔
      entry.1.value = pair.1 ∧ valuation.value? entry.2 = some pair.2 := by
  obtain ⟨key, value⟩ := pair
  unfold entryValue?
  cases valuation.value? entry.2 <;> simp

theorem IsProper.valueOf? {value : Value} (proper : valuation.IsProper) (objectProper : object.IsProper)
    (found : valuation.valueOf? object = some value) : value.IsProper := by
  cases object with
  | plain atom =>
    cases found
    exact Value.isProper_atom.mpr objectProper
  | list items =>
    obtain ⟨values, made, rfl⟩ := Option.map_eq_some_iff.mp found
    exact Value.areProper_iff.mpr (forall_of_mapM made proper.values)
  | mapping entries =>
    obtain ⟨pairs, made, rfl⟩ := Option.map_eq_some_iff.mp found
    have keys : entries.map (·.1.value) = pairs.map (·.1) := by
      rw [← List.forall₂_eq_eq_eq, List.forall₂_map_left_iff, List.forall₂_map_right_iff]
      exact (forall₂_of_mapM made).imp fun _ _ found => (entryValue?_eq_some.mp found).1
    refine ⟨keys ▸ objectProper.1, Value.entriesAreProper_iff.mpr fun pair member => ⟨?_, ?_⟩⟩
    · obtain ⟨entry, present, same⟩ := List.mem_map.mp (keys ▸ List.mem_map_of_mem member :
        pair.1 ∈ entries.map (·.1.value))
      exact same ▸ Value.isProper_atom.mpr (objectProper.2 entry present)
    · have values : ∀ pair ∈ pairs, pair.2.IsProper := forall_of_mapM made fun entry result found =>
        proper.values _ _ (entryValue?_eq_some.mp found).2
      exact values pair member
  | set members =>
    cases found
    refine ⟨objectProper.1, Value.areProper_iff.mpr fun value member => ?_⟩
    obtain ⟨atom, present, rfl⟩ := List.mem_map.mp member
    exact Value.isProper_atom.mpr (objectProper.2 atom present)
  | pairs entries =>
    obtain ⟨values, made, rfl⟩ := Option.map_eq_some_iff.mp found
    refine Value.areProper_iff.mpr (forall_of_mapM made fun entry value found => ?_)
    obtain ⟨key, keyFound, found⟩ := Option.bind_eq_some_iff.mp found
    obtain ⟨other, otherFound, whole⟩ := Option.bind_eq_some_iff.mp found
    cases whole
    exact ⟨proper.values _ _ keyFound, proper.values _ _ otherFound⟩

theorem IsProper.settle (proper : valuation.IsProper) (place : Nat) :
    (valuation.settle place).IsProper := by
  unfold Valuation.settle
  split
  · exact proper
  · split
    · rename_i value found
      obtain ⟨object, isObject, valued⟩ := Option.bind_eq_some_iff.mp found
      refine ⟨proper.objects, fun other value isKnown => ?_⟩
      rw [value?, Array.getD_eq_getD_getElem?, Array.getElem?_setIfInBounds] at isKnown
      split at isKnown
      · split at isKnown
        · cases isKnown
          exact proper.valueOf? (proper.objects place object isObject) valued
        · cases isKnown
      · rw [← Array.getD_eq_getD_getElem?] at isKnown
        exact proper.values other value isKnown
    · exact proper

theorem IsProper.settleAll (proper : valuation.IsProper) (passes : Nat) :
    (valuation.settleAll passes).IsProper := by
  induction passes generalizing valuation with
  | zero => exact proper
  | succ passes ih =>
    unfold Valuation.settleAll
    have settled : (valuation.unsettled.foldl Valuation.settle (valuation.unsettled.foldr
        (fun place settled => settled.settle place) valuation)).IsProper := by
      apply List.foldlRecOn
      · exact List.foldrRecOn _ _ proper fun _ settled place _ => settled.settle place
      · exact fun _ settled place _ => settled.settle place
    dsimp only
    split
    · exact ih settled
    · exact settled

/-- The value at a place is proper, whether it is known or left in the table. -/
theorem IsProper.value (proper : valuation.IsProper) (place : Nat) : (valuation.value place).IsProper := by
  unfold Valuation.value
  cases known : valuation.value? place with
  | some value => exact proper.values place value known
  | none =>
    refine Value.isProper_member (fun object member => ?_) place
    obtain ⟨made, present, rfl⟩ := Array.mem_map.mp member
    cases made with
    | none => trivial
    | some object =>
      obtain ⟨place, inside, found⟩ := Array.getElem_of_mem present
      exact proper.objects place object (by simp [Array.getD, inside, found])

end Valuation

/-- The value of a graph is proper. -/
theorem Graph.isProper_value {graph : Graph} {value : Value} (found : graph.value root = .ok value) :
    value.IsProper := by
  obtain ⟨objects, made, whole⟩ := Outcome.bind_eq_ok.mp found
  cases whole
  have proper := Valuation.isProper_ofObjects (areProper_objects made)
  exact (proper.settleAll _).value root

/-- The value of a YAML text is proper. -/
theorem isProper_read {text : String} {value : Value} (found : read text = .ok value) :
    value.IsProper := by
  unfold read at found
  obtain ⟨tokens, _, found⟩ := Outcome.bind_eq_ok.mp found
  obtain ⟨⟨root, graph⟩, _, found⟩ := Outcome.bind_eq_ok.mp found
  cases root with
  | none =>
    cases found
    trivial
  | some root => exact graph.isProper_value found

end TypedClient.Yaml
