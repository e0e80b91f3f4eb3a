import TypedClient.Proofs.Name.Identifier

namespace TypedClient.Identifier

/-- A run of identifier characters has nothing to be split at. -/
theorem wordsOf_of_parts (nonempty : chars ≠ []) (parts : ∀ c ∈ chars, isPart c = true) :
    wordsOf chars = [chars] := by
  have unseparated : ∀ c ∈ chars, (!isPart c) = false := fun c member => by rw [parts c member]; rfl
  rw [wordsOf, Text.piecesBy_of_plain unseparated]
  exact List.filter_cons_of_pos (by simpa using nonempty)

theorem isDigit_of_isStart (start : isStart c = true) : c.isDigit = false := by
  have all : ∀ code < 128, isStart (Char.ofNat code) = true → (Char.ofNat code).isDigit = false := by
    decide
  have part := isPart_of_isStart start
  exact of_isPart (fun c => isStart c = true → c.isDigit = false) all part start

theorem guardStart_of_isIdentifier (identifier : isIdentifier chars = true) : guardStart chars = chars := by
  obtain ⟨first, rest, rfl, start⟩ := exists_cons_of_isIdentifier identifier
  simp [guardStart, isDigit_of_isStart start]

theorem guardReserved_of_free (free : isReserved chars = false) : guardReserved chars = chars := by
  simp [guardReserved, free]

/-- A name for a variable derives itself. -/
theorem derive_of_isVariable (isVariable : IsVariable name) : derive name = name := by
  obtain ⟨identifier, free⟩ := isVariable
  have nonempty : name.toList ≠ [] := by
    obtain ⟨first, rest, spelled, _⟩ := exists_cons_of_isIdentifier identifier
    exact spelled ▸ List.cons_ne_nil first rest
  have oneWord := wordsOf_of_parts nonempty fun _ member => isPart_of_mem identifier member
  have unchanged : deriveChars name.toList = name.toList := by
    rw [deriveChars, oneWord]
    simp only [List.flatMap_nil, List.append_nil]
    rw [guardStart_of_isIdentifier identifier, guardReserved_of_free free]
  rw [derive, unchanged, String.ofList_toList]

/-- From every text an identifier is derived that is no reserved word. The texts that derive themselves
are exactly these identifiers, so deriving a second time changes nothing. -/
theorem derive_fixed_iff (name : String) :
    IsVariable (derive name) ∧ (derive name = name ↔ IsVariable name) ∧
      derive (derive name) = derive name := by
  have derived := isVariable_derive name
  refine ⟨derived, ⟨?_, derive_of_isVariable⟩, derive_of_isVariable derived⟩
  intro unchanged
  exact unchanged ▸ derived

example : derive "user-id" = "userId" ∧ derive "class" = "class_" ∧ derive "2nd try" = "_2ndTry" := by
  decide +kernel

end TypedClient.Identifier
