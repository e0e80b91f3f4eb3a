import TypedClient.Proofs.Distinct
import TypedClient.TypeExpr.Basic

namespace TypedClient.TypeExpr

inductive Mentions (name : String) : TypeExpr → Prop where
  | ref : Mentions name (.ref name)
  | array (element : Mentions name item) : Mentions name (.array item)
  | property (declared : (key, type) ∈ properties) (inside : Mentions name type) :
      Mentions name (.record properties required)

mutual

theorem mem_references : ∀ {type : TypeExpr}, name ∈ type.references ↔ type.Mentions name
  | .ref other => by
    constructor
    · intro member
      rw [references, List.mem_singleton] at member
      exact member ▸ .ref
    · rintro ⟨⟩
      simp [references]
  | .array item => by
    rw [references, mem_references]
    constructor
    · exact .array
    · rintro (_ | element)
      exact element
  | .record properties required => by
    rw [references, mem_referencesIn]
    constructor
    · rintro ⟨property, declared, inside⟩
      exact .property declared inside
    · rintro (_ | _ | ⟨declared, inside⟩)
      exact ⟨_, declared, inside⟩
  | .openRecord | .enumeration _ | .string | .number | .boolean | .unknown _ => by
    constructor
    · intro member
      simp [references] at member
    · rintro ⟨⟩

theorem mem_referencesIn : ∀ {properties : List (String × TypeExpr)},
    name ∈ referencesIn properties ↔ ∃ property ∈ properties, property.2.Mentions name
  | [] => by simp [referencesIn]
  | (key, type) :: rest => by
    rw [referencesIn, List.mem_append, mem_references, mem_referencesIn]
    simp

end

theorem mem_modelNames {type : TypeExpr} :
    name ∈ type.modelNames ↔ name ≠ "" ∧ type.Mentions name := by
  rw [modelNames, List.mem_eraseDups, List.mem_filter, mem_references]
  constructor
  · rintro ⟨mentioned, nonempty⟩
    exact ⟨by rintro rfl; simp at nonempty, mentioned⟩
  · rintro ⟨nonempty, mentioned⟩
    exact ⟨mentioned, by simpa using nonempty⟩

end TypedClient.TypeExpr
