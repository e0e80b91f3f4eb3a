import TypedClient.Proofs.TypeExpr.Reader

namespace TypedClient.TypeExpr

theorem renderArray_canonical (item : TypeExpr) (itemText : String) :
    renderArray item.canonical itemText = renderArray item itemText := by
  cases item <;> simp only [canonical] <;> rfl

mutual

theorem render_canonical (type : TypeExpr) (indent : Int) :
    type.canonical.render indent = type.render indent := by
  cases type with
  | ref name => rw [canonical]
  | openRecord => rw [canonical]
  | enumeration values => rw [canonical]
  | string => rw [canonical]
  | number => rw [canonical]
  | boolean => rw [canonical]
  | unknown declared =>
    rw [canonical, render, render]
    rfl
  | array item =>
    rw [canonical, render, render, renderArray_canonical, render_canonical item]
  | record properties required =>
    rw [canonical]
    cases properties with
    | nil => rw [canonicalIn, render, render]
    | cons property rest =>
      obtain ⟨name, type⟩ := property
      rw [render, ← fieldsOf_canonicalIn ((name, type) :: rest), canonicalIn, render]
      intro other member
      simp only [List.contains_eq_mem, List.mem_filter, member, true_and, decide_eq_true_eq]

theorem fieldsOf_canonicalIn (properties : List (String × TypeExpr)) (indent : Int)
    (required canonicalRequired : List String)
    (same : ∀ name ∈ properties.map (·.1), canonicalRequired.contains name = required.contains name) :
    fieldsOf indent canonicalRequired (canonicalIn properties) = fieldsOf indent required properties := by
  cases properties with
  | nil => rw [canonicalIn, fieldsOf, fieldsOf]
  | cons property rest =>
    obtain ⟨name, type⟩ := property
    have sameRest : ∀ other ∈ rest.map (·.1),
        canonicalRequired.contains other = required.contains other :=
      fun other member => same other (List.mem_cons_of_mem name member)
    rw [canonicalIn, fieldsOf, fieldsOf, render_canonical type, same name List.mem_cons_self,
      fieldsOf_canonicalIn rest indent required canonicalRequired sameRest]

end

end TypedClient.TypeExpr
