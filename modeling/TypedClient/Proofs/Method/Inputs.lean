import Mathlib.Data.List.Forall2
import Mathlib.Data.List.Nodup
import TypedClient.Method.Build
import TypedClient.Proofs.Name.Fresh

/-!
The keys of the inputs of a method. However names are repeated and whatever they look like, no two
inputs have one key, and a parameter gives up its name only for a key that an earlier input has. The
record of the inputs has one property for each key.
-/

namespace TypedClient.Operation

/-! ### The key of one parameter -/

theorem parameterKey_not_mem (taken : List String) (parameter : Parameter) :
    parameterKey taken parameter ∉ taken := by
  unfold parameterKey
  split
  · exact freshName_not_mem _ _
  · rename_i free
    simpa using free

/-- What may stand behind the name and the place of a parameter: nothing, or a number from two on. -/
def IsCounter (counter : String) : Prop :=
  counter = "" ∨ ∃ number ≥ 2, counter = toString number

theorem parameterKey_spelled {taken : List String} {parameter : Parameter}
    (clash : parameter.name ∈ taken) : ∃ counter, IsCounter counter ∧
      parameterKey taken parameter = parameter.name ++ parameter.place.suffix ++ counter := by
  rw [parameterKey, if_pos (List.contains_iff_mem.mpr clash)]
  rcases freshName_cases (parameter.name ++ parameter.place.suffix) taken with same | numbered
  · exact ⟨"", .inl rfl, by rw [same, String.append_empty]⟩
  · obtain ⟨number, fromTwo, same⟩ := numbered
    exact ⟨toString number, .inr ⟨number, fromTwo, rfl⟩, same⟩

/-- A parameter keeps its name exactly when no earlier input has it as its key. -/
theorem parameterKey_eq_name_iff {taken : List String} {parameter : Parameter} :
    parameterKey taken parameter = parameter.name ↔ parameter.name ∉ taken := by
  constructor
  · intro kept clash
    exact parameterKey_not_mem taken parameter (kept ▸ clash)
  · intro free
    rw [parameterKey, if_neg (by simpa using free)]

/-- A key is the name of its parameter, or that name with identifier characters behind it. -/
theorem mem_parameterKey {taken : List String} {parameter : Parameter}
    (member : c ∈ (parameterKey taken parameter).toList) :
    c ∈ parameter.name.toList ∨ Identifier.isPart c = true := by
  unfold parameterKey at member
  split at member
  · obtain ⟨digits, spelled, areDigits⟩ :=
      toList_freshName (parameter.name ++ parameter.place.suffix) taken
    rw [spelled, String.toList_append, List.append_assoc] at member
    rcases List.mem_append.mp member with inName | behind
    · exact .inl inName
    · right
      rcases List.mem_append.mp behind with inSuffix | inDigits
      · have suffixes : parameter.place.suffix.toList.all Identifier.isPart = true := by
          cases parameter.place <;> decide
        exact List.all_eq_true.mp suffixes c inSuffix
      · simp [Identifier.isPart, areDigits c inDigits]
  · exact .inl member

/-! ### The keys of all parameters -/

theorem length_parameterKeys (taken : List String) (parameters : List Parameter) :
    (parameterKeys taken parameters).length = parameters.length := by
  induction parameters generalizing taken with
  | nil => rfl
  | cons parameter rest ih => simp [parameterKeys, ih]

theorem exists_parameterKey {taken : List String} {parameters : List Parameter}
    (member : (parameter, key) ∈ parameters.zip (parameterKeys taken parameters)) :
    parameter ∈ parameters ∧ ∃ earlier, key = parameterKey earlier parameter := by
  induction parameters generalizing taken with
  | nil => cases member
  | cons first rest ih =>
    rcases List.mem_cons.mp member with here | later
    · obtain ⟨rfl, rfl⟩ := Prod.mk.inj here
      exact ⟨List.mem_cons_self, taken, rfl⟩
    · obtain ⟨present, keyed⟩ := ih later
      exact ⟨List.mem_cons_of_mem first present, keyed⟩

/-- The key of a parameter is chosen beside all keys that were chosen before. -/
theorem parameterKeys_split {taken : List String} {parameters : List Parameter}
    (split : parameters.zip (parameterKeys taken parameters) = before ++ (parameter, key) :: after) :
    key = parameterKey ((before.map (·.2)).reverse ++ taken) parameter := by
  induction before generalizing taken parameters with
  | nil =>
    cases parameters with
    | nil => cases split
    | cons first rest =>
      obtain ⟨⟨rfl, rfl⟩, _⟩ := (List.cons.inj split).imp_left Prod.mk.inj
      rfl
  | cons earlier before ih =>
    cases parameters with
    | nil => cases split
    | cons first rest =>
      obtain ⟨rfl, restSplit⟩ := List.cons.inj split
      simpa using ih restSplit

theorem nodup_parameterKeys (distinct : taken.Nodup) (parameters : List Parameter) :
    (taken ++ parameterKeys taken parameters).Nodup := by
  induction parameters generalizing taken with
  | nil => simpa [parameterKeys] using distinct
  | cons parameter rest ih =>
    rw [parameterKeys, List.nodup_middle]
    exact ih (List.nodup_cons.mpr ⟨parameterKey_not_mem taken parameter, distinct⟩)

theorem map_keyedParameters (operation : Operation) :
    operation.keyedParameters.map (·.1) = operation.parameters ∧
      operation.keyedParameters.map (·.2) = operation.inputKeys := by
  have lengths : operation.inputKeys.length = operation.parameters.length := length_parameterKeys _ _
  constructor
  · exact List.map_fst_zip (Nat.le_of_eq lengths.symm)
  · exact List.map_snd_zip (Nat.le_of_eq lengths)

/-- The keys of all inputs, the body first. -/
def allKeys (operation : Operation) : List String :=
  operation.bodyKey.toList ++ operation.inputKeys

theorem nodup_allKeys (operation : Operation) : operation.allKeys.Nodup := by
  have bodyAlone : operation.bodyKey.toList.Nodup := by
    cases operation.bodyKey <;> simp
  exact nodup_parameterKeys bodyAlone operation.parameters

/-! ### Renamed inputs -/

theorem renamedInputs_eq (operation : Operation) : operation.renamedInputs =
    (operation.keyedParameters.map fun (parameter, key) => (parameter.name, key)).filter
      fun (name, key) => name ≠ key := by
  unfold renamedInputs
  induction operation.keyedParameters with
  | nil => rfl
  | cons first rest ih =>
    obtain ⟨parameter, key⟩ := first
    by_cases kept : parameter.name = key <;> simp [kept, ih]

theorem mem_renamedInputs {operation : Operation} : (name, key) ∈ operation.renamedInputs ↔
    name ≠ key ∧ ∃ parameter, (parameter, key) ∈ operation.keyedParameters ∧ parameter.name = name := by
  rw [renamedInputs_eq, List.mem_filter, List.mem_map, decide_eq_true_iff, and_comm]
  simp

/-! ### The record of the inputs -/

theorem map_inputFields (operation : Operation) :
    operation.inputFields.map (·.name) = operation.allKeys := by
  rw [allKeys, ← (map_keyedParameters operation).2]
  simp only [inputFields, bodyKey, List.map_append, List.map_map]
  cases operation.body <;> rfl

/-- The line is the one of a property under a key, which stands first on it. -/
def DeclaresKey (key line : String) : Prop :=
  ∃ marker type, (marker = "" ∨ marker = "?") ∧
    line = indentation 2 ++ Literal.propertyKey key ++ marker ++ ": " ++ type ++ ";"

theorem declaresKey_render (field : RecordField) : DeclaresKey field.name (field.render 2) := by
  refine ⟨if field.isRequired then "" else "?", field.typeText, ?_, rfl⟩
  cases field.isRequired
  · exact .inr rfl
  · exact .inl rfl

theorem inputType_eq_none_iff {operation : Operation} :
    operation.inputType = none ↔ operation.allKeys = [] := by
  rw [← map_inputFields, List.map_eq_nil_iff, inputType]
  split
  · rename_i empty
    simp [empty]
  · rename_i fields nonempty
    simpa using nonempty

/-- The record has a line for every key, in order, between its braces. -/
theorem inputType_lines {operation : Operation} (typed : operation.inputType = some text) :
    ∃ lines, text = Text.unlines ("\x7b" :: lines ++ [indentation 1 ++ "\x7d"]) ∧
      List.Forall₂ DeclaresKey operation.allKeys lines := by
  unfold inputType at typed
  split at typed
  · cases typed
  · cases typed
    refine ⟨operation.inputFields.map (·.render 2), rfl, ?_⟩
    rw [← map_inputFields, List.forall₂_map_left_iff, List.forall₂_map_right_iff, List.forall₂_same]
    exact fun field _ => declaresKey_render field

/-- Every input has a key of its own: the body its name, and a parameter its name unless an earlier
input has it as its key, in which case its place and perhaps a number are put behind it. The inputs
whose key is not their name are listed in order, and the record has a property for each key. -/
theorem inputKeys_assigned (operation : Operation) :
    operation.allKeys.Nodup ∧
      operation.bodyKey = operation.body.map (·.argumentName) ∧
      operation.keyedParameters.map (·.1) = operation.parameters ∧
      operation.keyedParameters.map (·.2) = operation.inputKeys ∧
      (∀ before parameter key after,
        operation.keyedParameters = before ++ (parameter, key) :: after →
          (key = parameter.name ↔
            parameter.name ∉ operation.bodyKey.toList ++ before.map (·.2)) ∧
          (key ≠ parameter.name → ∃ counter, IsCounter counter ∧
            key = parameter.name ++ parameter.place.suffix ++ counter)) ∧
      operation.renamedInputs.Sublist
        (operation.keyedParameters.map fun (parameter, key) => (parameter.name, key)) ∧
      (∀ name key, (name, key) ∈ operation.renamedInputs ↔ name ≠ key ∧
        ∃ parameter, (parameter, key) ∈ operation.keyedParameters ∧ parameter.name = name) ∧
      (operation.inputType = none ↔ operation.allKeys = []) ∧
      ∀ text, operation.inputType = some text →
        ∃ lines, text = Text.unlines ("\x7b" :: lines ++ [indentation 1 ++ "\x7d"]) ∧
          List.Forall₂ DeclaresKey operation.allKeys lines := by
  obtain ⟨parameters, keys⟩ := map_keyedParameters operation
  have inOrder := renamedInputs_eq operation ▸ List.filter_sublist
  refine ⟨nodup_allKeys operation, rfl, parameters, keys, ?_, inOrder, fun _ _ => mem_renamedInputs,
    inputType_eq_none_iff, fun _ => inputType_lines⟩
  intro before parameter key after split
  obtain rfl := parameterKeys_split split
  have sameNames (name : String) : name ∈ (before.map (·.2)).reverse ++ operation.bodyKey.toList ↔
      name ∈ operation.bodyKey.toList ++ before.map (·.2) := by
    simp [or_comm]
  refine ⟨by rw [parameterKey_eq_name_iff, sameNames], fun renamed => ?_⟩
  exact parameterKey_spelled (Classical.not_not.mp (mt parameterKey_eq_name_iff.mpr renamed))

end TypedClient.Operation
