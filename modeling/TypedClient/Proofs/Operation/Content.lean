import TypedClient.Operation.Content
import TypedClient.Proofs.Outcome
import TypedClient.Proofs.TypeExpr.Schema

namespace TypedClient

namespace TypeExpr

theorem primitive?_ne_ref (stands : primitive? word = some type) (name : String) :
    type ≠ .ref name := by
  unfold primitive? at stands
  split at stands <;> cases stands <;> simp

theorem ofDeclared_ne_ref (declared : Value) (name : String) : ofDeclared declared ≠ .ref name := by
  unfold ofDeclared
  cases found : declared.text?.bind primitive? with
  | none => simp
  | some type =>
    obtain ⟨word, _, stands⟩ := Option.bind_eq_some_iff.mp found
    exact primitive?_ne_ref stands name

theorem ofTextSchema_ne_ref (entries : Entries) (name : String) : ofTextSchema entries ≠ .ref name := by
  unfold ofTextSchema
  split <;> simp

/-- A schema is a reference exactly when it declares no type. -/
theorem ofSchema_mapping_eq_ref (schema : Entries) (name : String) :
    ofSchema (.mapping schema) = .ok (.ref name) ↔
      Entries.field schema "type" = .null ∧
        referenceName (Entries.field schema "$ref") = name := by
  have isMapping : (Value.mapping schema).entries? = some schema := rfl
  rw [ofSchema_eq, ofSchemaBy]
  simp only [isMapping]
  split
  · rename_i untyped
    simp [untyped, Outcome.pure_eq_ok]
  · rename_i object
    split <;> simp [object, Outcome.bind_eq_ok, Outcome.pure_eq_ok, -bind_pure_comp]
  · rename_i array
    simp [array, Outcome.bind_eq_ok, Outcome.pure_eq_ok, -bind_pure_comp]
  · rename_i text
    simp [text, Outcome.bind_eq_ok, Outcome.pure_eq_ok, ofTextSchema_ne_ref, -bind_pure_comp]
  · rename_i typed _ _ _
    constructor
    · intro same
      obtain ⟨_, _, same⟩ := Outcome.bind_eq_ok.mp same
      exact False.elim (ofDeclared_ne_ref _ name (Outcome.pure_eq_ok.mp same))
    · rintro ⟨untyped, _⟩
      exact False.elim (typed untyped)

end TypeExpr

namespace Content

/-- Content refers to a model exactly when its type expression is a reference that is not malformed. -/
theorem importNameOf_eq_some (schema : Entries) (name : String) :
    importNameOf schema = some name ↔
      TypeExpr.ofSchema (.mapping schema) = .ok (.ref name) ∧ name ≠ "" := by
  rw [TypeExpr.ofSchema_mapping_eq_ref]
  unfold importNameOf
  split
  · rename_i untyped
    by_cases empty : TypeExpr.referenceName (Entries.field schema "$ref") = ""
    · constructor
      · intro found
        simp [empty] at found
      · rintro ⟨⟨_, named⟩, nonempty⟩
        exact False.elim (nonempty (named.symm.trans empty))
    · simp [empty, untyped]
      rintro rfl
      exact empty
  · rename_i typed
    constructor
    · intro found
      cases found
    · rintro ⟨⟨untyped, _⟩, _⟩
      exact False.elim (typed untyped)

/-- The model that content refers to is the one that its type expression names. -/
def Consistent (content : Content) : Prop :=
  ∀ name, content.importName = some name ↔ content.type = .ref name ∧ name ≠ ""

theorem consistent_of_ofSchema {content : Content} {schema : Entries}
    (typed : TypeExpr.ofSchema (.mapping schema) = .ok content.type)
    (imported : content.importName = importNameOf schema) : content.Consistent := by
  intro name
  rw [imported, importNameOf_eq_some, typed, Except.ok.injEq]

theorem consistent_ofRequest (found : ofRequest operation = .ok (some content)) :
    content.Consistent := by
  unfold ofRequest at found
  split at found
  · cases found
  · split at found
    · cases found
    · obtain ⟨type, typed, made⟩ := Outcome.bind_eq_ok.mp found
      cases made
      exact consistent_of_ofSchema typed rfl

/-! ### Limits -/

theorem fieldEntries?_keeps {entries inner : Entries} (keeps : entries.Keeps limit)
    (found : fieldEntries? entries name = some inner) : inner.Keeps limit :=
  (keeps.field name).entries? found

theorem schema?_keeps {owner : Entries} (keeps : owner.Keeps limit) (found : schema? owner = some schema) :
    schema.Keeps limit := by
  simp only [schema?, Option.bind_eq_bind, Option.bind_eq_some_iff] at found
  obtain ⟨content, contentFound, media, mediaFound, schemaFound⟩ := found
  exact fieldEntries?_keeps (fieldEntries?_keeps (fieldEntries?_keeps keeps contentFound) mediaFound)
    schemaFound

theorem ofSchema_harmless_of_entries {respected : Limit → Prop} {schema : Entries}
    (keeps : ∀ limit, respected limit → schema.Keeps limit) :
    Harmless respected (TypeExpr.ofSchema (.mapping schema)) :=
  (TypeExpr.ofSchema_harmless _).weaken fun limit holds => Entries.keeps_mapping.mpr (keeps limit holds)

theorem ofRequest_harmless (operation : Entries) : Harmless (operation.Keeps ·) (ofRequest operation) := by
  unfold ofRequest
  split
  · exact .harmless_ok _
  · rename_i request requestFound
    split
    · exact .harmless_ok _
    · rename_i schema schemaFound
      refine .last (ofSchema_harmless_of_entries fun limit keeps => ?_) fun _ _ => ⟨_, rfl⟩
      exact schema?_keeps (fieldEntries?_keeps keeps requestFound) schemaFound

theorem successful?_keeps {responses : Entries} (keeps : responses.Keeps limit)
    (found : successful? responses = some response) : response.Keeps limit := by
  obtain ⟨value, chosen, isMapping⟩ := Option.bind_eq_some_iff.mp found
  obtain ⟨status, _, present⟩ := List.exists_of_findSome?_eq_some chosen
  obtain ⟨entry, isEntry, rfl⟩ := Option.map_eq_some_iff.mp present
  have member := List.mem_reverse.mp (List.mem_of_find?_eq_some isEntry)
  exact (Entries.keeps_iff.mp keeps entry member).2.entries? isMapping

theorem ofResponses_harmless (operation : Entries) :
    Harmless (operation.Keeps ·) (ofResponses operation) := by
  unfold ofResponses
  split
  · exact .harmless_ok _
  · rename_i responses responsesFound
    refine .after (.ensureWritable fun keeps key member => ?_) fun _ _ => ?_
    · obtain ⟨entry, present, rfl⟩ := List.mem_map.mp member
      exact (Entries.keeps_iff.mp (fieldEntries?_keeps keeps responsesFound) entry present).1
    · split
      · exact .harmless_ok _
      · rename_i schema schemaFound
        refine .last (ofSchema_harmless_of_entries fun limit keeps => ?_) fun _ _ => ⟨_, rfl⟩
        obtain ⟨response, chosen, declared⟩ := Option.bind_eq_some_iff.mp schemaFound
        exact schema?_keeps (successful?_keeps (fieldEntries?_keeps keeps responsesFound) chosen) declared

end Content

end TypedClient
