import TypedClient.Method.Locals
import TypedClient.Proofs.Method.Inputs
import TypedClient.Proofs.Name.Identifier

namespace TypedClient

namespace Operation

/-- The characters of a key stand in the name of a parameter or in identifiers. -/
theorem mem_key {operation : Operation} (member : (parameter, key) ∈ operation.keyedParameters)
    (inside : c ∈ key.toList) :
    (∃ parameter ∈ operation.parameters, c ∈ parameter.name.toList) ∨ Identifier.isPart c = true := by
  obtain ⟨present, earlier, rfl⟩ := exists_parameterKey member
  exact (mem_parameterKey inside).imp_left fun inName => ⟨parameter, present, inName⟩

theorem exists_keyed {operation : Operation} (member : parameter ∈ operation.parameters) :
    ∃ key, (parameter, key) ∈ operation.keyedParameters := by
  rw [← (map_keyedParameters operation).1] at member
  obtain ⟨⟨_, key⟩, keyed, rfl⟩ := List.mem_map.mp member
  exact ⟨key, keyed⟩

/-- The key of the first path parameter with a name. -/
def pathKey? (operation : Operation) (name : String) : Option String :=
  (operation.keyedParameters.find? fun (parameter, _) =>
    parameter.place = .path ∧ parameter.name = name).map (·.2)

theorem exists_pathKey {operation : Operation}
    (declared : ∃ parameter ∈ operation.pathParameters, parameter.name = name) :
    ∃ key, operation.pathKey? name = some key := by
  obtain ⟨parameter, member, named⟩ := declared
  obtain ⟨present, inPath⟩ := List.mem_filter.mp member
  obtain ⟨key, keyed⟩ := exists_keyed present
  have found : (operation.keyedParameters.find? fun (parameter, _) =>
      parameter.place = .path ∧ parameter.name = name).isSome = true :=
    List.find?_isSome.mpr ⟨(parameter, key), keyed, by simpa [named] using inPath⟩
  obtain ⟨⟨first, firstKey⟩, same⟩ := Option.isSome_iff_exists.mp found
  exact ⟨firstKey, by rw [pathKey?, same]; rfl⟩

end Operation

namespace PathLocal

theorem isVariable_variableFor (used : List String) (key : String) :
    Identifier.IsVariable (variableFor used key) := by
  simp only [variableFor]
  split
  · obtain ⟨digits, spelled, areDigits⟩ := toList_freshName (Identifier.derive key ++ "Param") used
    have derived := (Identifier.isVariable_derive key).1
    have suffix : "Param".toList.all Identifier.isPart = true := by decide
    unfold Identifier.IsVariable
    rw [spelled, String.toList_append, List.append_assoc]
    constructor
    · apply Identifier.isIdentifier_append derived
      intro c member
      rcases List.mem_append.mp member with inSuffix | inDigits
      · exact List.all_eq_true.mp suffix c inSuffix
      · simp [Identifier.isPart, areDigits c inDigits]
    · exact Identifier.not_isReserved_of_mem (c := 'P') (by simp) (.inr rfl)
  · exact Identifier.isVariable_derive key

theorem variableFor_not_mem (used : List String) (key : String) : variableFor used key ∉ used := by
  simp only [variableFor]
  split
  · exact freshName_not_mem _ _
  · rename_i free
    simpa using free

/-- The variables in use stay different from each other and from all locals. -/
theorem nodup_bindAll (distinct : used.Nodup) (bound : List String) (keyed : List (Parameter × String)) :
    (used ++ (bindAll used bound keyed).map (·.localName)).Nodup := by
  induction keyed generalizing used bound with
  | nil => simpa [bindAll] using distinct
  | cons first rest ih =>
    obtain ⟨parameter, key⟩ := first
    rw [bindAll]
    split
    · rw [List.map_cons, List.nodup_middle]
      exact ih (List.nodup_cons.mpr ⟨variableFor_not_mem used key, distinct⟩) _
    · exact ih distinct bound

/-- A local is bound from a key of an input, and its name can name a variable. -/
theorem mem_bindAll {keyed : List (Parameter × String)}
    (member : pathLocal ∈ bindAll used bound keyed) :
    (∃ parameter, (parameter, pathLocal.key) ∈ keyed) ∧
      Identifier.IsVariable pathLocal.localName := by
  induction keyed generalizing used bound with
  | nil => cases member
  | cons first rest ih =>
    obtain ⟨parameter, key⟩ := first
    have later {nowUsed nowBound : List String}
        (inRest : pathLocal ∈ bindAll nowUsed nowBound rest) :
        (∃ other, (other, pathLocal.key) ∈ (parameter, key) :: rest) ∧
          Identifier.IsVariable pathLocal.localName := by
      obtain ⟨⟨other, keyed⟩, isVariable⟩ := ih inRest
      exact ⟨⟨other, List.mem_cons_of_mem _ keyed⟩, isVariable⟩
    rw [bindAll] at member
    split at member
    · rcases List.mem_cons.mp member with rfl | inRest
      · exact ⟨⟨parameter, List.mem_cons_self⟩, isVariable_variableFor used key⟩
      · exact later inRest
    · exact later member

/-- The local for a name is bound from the key of the first path parameter with that name. -/
theorem find?_bindAll (unbound : name ∉ bound) (used : List String)
    (keyed : List (Parameter × String)) :
    ((bindAll used bound keyed).find? (·.parameterName = name)).map (·.key) =
      (keyed.find? fun (parameter, _) => parameter.place = .path ∧ parameter.name = name).map (·.2) := by
  induction keyed generalizing used bound with
  | nil => rfl
  | cons first rest ih =>
    obtain ⟨parameter, key⟩ := first
    rw [bindAll]
    by_cases named : parameter.name = name
    · by_cases inPath : parameter.place = .path
      · simp [named, inPath, unbound]
      · simp [named, inPath, ih unbound]
    · split
      · have stillUnbound : name ∉ parameter.name :: bound := by
          simp [unbound, Ne.symm named]
        simp [named, ih stillUnbound]
      · simp [named, ih unbound]

end PathLocal

end TypedClient
