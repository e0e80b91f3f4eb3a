import TypedClient.Proofs.Enumeration
import TypedClient.TypeExpr.Basic

namespace TypedClient.TypeExpr

/-- A reference stands at a position of a type expression: the numbers of the properties that lead there,
and a zero for the elements of an array. -/
inductive RefersAt : TypeExpr → List Nat → String → Prop where
  | ref : RefersAt (.ref name) [] name
  | array (element : RefersAt item address name) : RefersAt (.array item) (0 :: address) name
  | property (declared : properties[index]? = some property)
      (inside : RefersAt property.2 address name) :
      RefersAt (.record properties required) (index :: address) name

theorem referencesIn_eq_flatMap (properties : List (String × TypeExpr)) :
    referencesIn properties = properties.flatMap fun property => property.2.references := by
  induction properties with
  | nil => rfl
  | cons property rest ih => rw [referencesIn, ih, List.flatMap_cons]

mutual

/-- The references of a type expression in order of their positions. -/
theorem enumerates_references : ∀ type : TypeExpr, Enumerates type.RefersAt type.references
  | .ref name => by
    refine (Enumerates.single name).congr fun address found => ⟨?_, ?_⟩
    · rintro ⟨rfl, rfl⟩
      exact .ref
    · rintro ⟨⟩
      exact ⟨rfl, rfl⟩
  | .array item => by
    refine ((enumerates_references item).inside 0).congr fun address found => ⟨?_, ?_⟩
    · rintro ⟨rest, rfl, element⟩
      exact .array element
    · rintro (_ | element)
      exact ⟨_, rfl, element⟩
  | .record properties required => by
    rw [references, referencesIn_eq_flatMap]
    refine (Enumerates.flatMap (enumerates_each properties)).congr fun address found => ⟨?_, ?_⟩
    · rintro ⟨index, rest, property, rfl, declared, inside⟩
      exact .property declared inside
    · rintro (_ | _ | ⟨declared, inside⟩)
      exact ⟨_, _, _, rfl, declared, inside⟩
  | .openRecord | .enumeration _ | .string | .number | .boolean | .unknown _ => by
    refine .nil fun address found => ?_
    rintro ⟨⟩

theorem enumerates_each : ∀ properties : List (String × TypeExpr), ∀ property ∈ properties,
    Enumerates property.2.RefersAt property.2.references
  | [] => fun _ member => (List.not_mem_nil member).elim
  | (key, type) :: rest => by
    intro property member
    rcases List.mem_cons.mp member with rfl | later
    · exact enumerates_references type
    · exact enumerates_each rest property later

end

end TypedClient.TypeExpr
