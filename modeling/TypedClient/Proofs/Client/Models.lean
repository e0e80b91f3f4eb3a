import TypedClient.Client.Compile
import TypedClient.Proofs.TypeExpr.Canonical
import TypedClient.Proofs.TypeExpr.RoundTrip

namespace TypedClient

namespace Model

/-- The model as its declaration shows it. -/
def canonical (model : Model) : Model :=
  ⟨model.name, model.type.canonical⟩

def Legible (model : Model) : Prop :=
  Identifier.isIdentifier model.name.toList = true ∧ model.type.Legible

/-- Reads declarations of models, each but the last followed by an empty line. -/
def readAll : Nat → List Char → Option (List Model)
  | 0, _ => none
  | fuel + 1, chars => do
    let named ← chars.dropPrefix? "export type ".toList
    let name := String.ofList (named.takeWhile Identifier.isPart)
    let typed ← (named.dropWhile Identifier.isPart).dropPrefix? " = ".toList
    let (type, closed) ← TypeExpr.readType (fuel + 1) typed
    match closed with
    | [';', '\n'] => return [⟨name, type⟩]
    | ';' :: '\n' :: '\n' :: rest => do
      let models ← readAll fuel rest
      return ⟨name, type⟩ :: models
    | _ => none

theorem declaration_canonical (model : Model) : model.canonical.declaration = model.declaration := by
  rw [declaration, canonical, TypeExpr.render_canonical, declaration]

theorem toList_declaration (model : Model) (rest : List Char) :
    model.declaration.render.toList ++ rest =
      "export type ".toList ++ (model.name.toList ++
        ' ' :: ("= ".toList ++ ((model.type.render 0).toList ++ ';' :: rest))) := by
  simp [declaration, Statement.render, exportMark]

/-- A declaration is read, and it depends on what follows whether it is the last one. -/
theorem readAll_declaration {model : Model} (legible : model.Legible)
    (enough : model.declaration.render.toList.length ≤ fuel) (rest : List Char) :
    readAll (fuel + 1) (model.declaration.render.toList ++ rest) =
      match rest with
      | ['\n'] => some [model.canonical]
      | '\n' :: '\n' :: more => (readAll fuel more).map (model.canonical :: ·)
      | _ => none := by
  have typeLength : (model.type.render 0).toList.length < fuel := by
    have whole := congrArg List.length (toList_declaration model [])
    simp only [List.length_append, List.length_cons, List.length_nil] at whole
    omega
  have typeRead : TypeExpr.readType (fuel + 1) ((model.type.render 0).toList ++ ';' :: rest) =
      some (model.type.canonical, ';' :: rest) :=
    TypeExpr.readType_render model.type legible.2 fuel 0 _ typeLength (TypeExpr.closes_semicolon rest)
  have equals (chars : List Char) : (' ' :: ("= ".toList ++ chars)).dropPrefix? " = ".toList =
      some chars := Text.dropPrefix?_append_self " = ".toList chars
  rw [toList_declaration, readAll, Text.dropPrefix?_append_self]
  simp only [Option.bind_eq_bind, Option.bind_some,
    Identifier.takeWhile_isPart legible.1 (c := ' ') (by decide),
    Identifier.dropWhile_isPart legible.1 (c := ' ') (by decide), equals, typeRead,
    String.ofList_toList]
  split
  · rename_i last
    cases last
    rfl
  · rename_i more followed
    cases followed
    change _ = (readAll fuel more).map (model.canonical :: ·)
    cases readAll fuel more <;> rfl
  · rename_i notLast notFollowed
    split
    · exact False.elim (notLast rfl)
    · exact False.elim (notFollowed _ rfl)
    · rfl

theorem separator_declaration (model other : Model) :
    Statement.separator model.declaration other.declaration = "\n\n" := rfl

/-- Declarations are read up to the line feed at the end of their file. -/
theorem readAll_renderAll {models : List Model} (nonempty : models ≠ [])
    (legible : ∀ model ∈ models, model.Legible)
    (enough : (Statement.renderAll (models.map (·.declaration))).toList.length < fuel) :
    readAll fuel ((Statement.renderAll (models.map (·.declaration))).toList ++ ['\n']) =
      some (models.map (·.canonical)) := by
  induction models generalizing fuel with
  | nil => exact False.elim (nonempty rfl)
  | cons model models ih =>
    obtain ⟨fuel, rfl⟩ := Nat.exists_eq_succ_of_ne_zero (Nat.ne_zero_of_lt enough)
    have firstLegible := legible model List.mem_cons_self
    cases models with
    | nil =>
      rw [List.map_singleton, Statement.renderAll] at enough ⊢
      rw [readAll_declaration firstLegible (by omega)]
      rfl
    | cons next models =>
      have restLegible : ∀ other ∈ next :: models, other.Legible :=
        fun other member => legible other (List.mem_cons_of_mem model member)
      have whole (chars : List Char) :
          (Statement.renderAll ((model :: next :: models).map (·.declaration))).toList ++ chars =
            model.declaration.render.toList ++ '\n' :: '\n' ::
              ((Statement.renderAll ((next :: models).map (·.declaration))).toList ++ chars) := by
        simp [Statement.renderAll, separator_declaration]
      have lengths := congrArg List.length (whole [])
      simp only [List.length_append, List.length_cons] at lengths
      have restRead : readAll fuel
          ((Statement.renderAll ((next :: models).map (·.declaration))).toList ++ ['\n']) =
            some ((next :: models).map (·.canonical)) := ih (by simp) restLegible (by omega)
      rw [whole, readAll_declaration firstLegible (by omega)]
      change (readAll fuel _).map (model.canonical :: ·) = _
      rw [restRead]
      rfl

end Model

namespace Client

/-- What stands in front of the declarations of a file. -/
def headerText (header : List String) : String :=
  if header.isEmpty then "" else Text.unlines header ++ "\n\n"

theorem render_modelsFile {models : List Model} (nonempty : models ≠ []) (header : List String) :
    (modelsFile models header).render =
      headerText header ++ Statement.renderAll (models.map (·.declaration)) ++ "\n" := by
  cases models with
  | nil => exact False.elim (nonempty rfl)
  | cons model models =>
    cases header with
    | nil => simp [modelsFile, SourceFile.render, headerText]
    | cons line lines => simp [modelsFile, SourceFile.render, headerText]

def readModels (header : List String) (text : String) : Option (List Model) :=
  if text = (modelsFile [] header).render then some []
  else do
    let declarations ← text.toList.dropPrefix? (headerText header).toList
    Model.readAll declarations.length declarations

theorem length_render_nil_le (header : List String) :
    (modelsFile [] header).render.toList.length ≤ (headerText header).toList.length + 1 := by
  cases header <;> simp [modelsFile, SourceFile.render, headerText, Statement.renderAll]

theorem length_renderAll_pos {models : List Model} (nonempty : models ≠ []) :
    0 < (Statement.renderAll (models.map (·.declaration))).toList.length := by
  obtain ⟨model, rest, rfl⟩ := List.exists_cons_of_ne_nil nonempty
  have declared : 0 < model.declaration.render.toList.length := by
    have whole := congrArg List.length (model.toList_declaration [])
    simp only [List.length_append, List.length_cons, List.length_nil] at whole
    omega
  cases rest with
  | nil => exact declared
  | cons next rest =>
    rw [List.map_cons, List.map_cons, Statement.renderAll, String.toList_append, String.toList_append]
    simp only [List.length_append]
    omega

/-- The models of a file are read back from its text in canonical form. -/
theorem readModels_render {models : List Model} (legible : ∀ model ∈ models, model.Legible)
    (header : List String) :
    readModels header (modelsFile models header).render = some (models.map (·.canonical)) := by
  by_cases empty : models = []
  · rw [empty, readModels, if_pos rfl]
    rfl
  · have whole := congrArg String.toList (render_modelsFile empty header)
    simp only [String.toList_append, List.append_assoc] at whole
    have nonempty := length_renderAll_pos empty
    have different : (modelsFile models header).render ≠ (modelsFile [] header).render := by
      intro same
      have lengths := congrArg List.length whole
      have short := length_render_nil_le header
      have one : "\n".toList.length = 1 := rfl
      rw [same] at lengths
      simp only [List.length_append] at lengths
      omega
    rw [readModels, if_neg different, whole, Text.dropPrefix?_append_self]
    exact Model.readAll_renderAll empty legible (by simp)

/-- Two lists of models have one file text under a header exactly when they are the same in canonical
form: their names, properties, order, nesting, values, and which properties are required. -/
theorem render_modelsFile_eq_iff {models others : List Model}
    (legible : ∀ model ∈ models, model.Legible) (othersLegible : ∀ model ∈ others, model.Legible)
    (header : List String) :
    (modelsFile models header).render = (modelsFile others header).render ↔
      models.map (·.canonical) = others.map (·.canonical) := by
  constructor
  · intro same
    have recovered := readModels_render legible header
    rw [same, readModels_render othersLegible header] at recovered
    exact (Option.some.inj recovered).symm
  · intro same
    have declarations (list : List Model) :
        list.map (·.declaration) = (list.map (·.canonical)).map (·.declaration) := by
      rw [List.map_map]
      exact List.map_congr_left fun model _ => model.declaration_canonical.symm
    rw [modelsFile, modelsFile, declarations models, same, ← declarations others]

/-- One property whose name reads like two properties does not print like two properties. -/
theorem modelsFile_nameLikeFields :
    let single := [⟨"User", .record [("a: string;\n    b", .string)] ["a: string;\n    b"]⟩]
    let double := [⟨"User", .record [("a", .string), ("b", .string)] ["a", "b"]⟩]
    (∀ model ∈ single, Model.Legible model) ∧ (∀ model ∈ double, Model.Legible model) ∧
      (modelsFile single []).render ≠ (modelsFile double []).render := by
  intro single double
  have singleLegible : ∀ model ∈ single, Model.Legible model := by
    intro model member
    rw [List.mem_singleton.mp member]
    exact ⟨by decide, trivial, trivial⟩
  have doubleLegible : ∀ model ∈ double, Model.Legible model := by
    intro model member
    rw [List.mem_singleton.mp member]
    exact ⟨by decide, trivial, trivial, trivial⟩
  refine ⟨singleLegible, doubleLegible, ?_⟩
  apply (render_modelsFile_eq_iff singleLegible doubleLegible []).not.mpr
  simp [single, double, Model.canonical, TypeExpr.canonical, TypeExpr.canonicalIn]

end Client

end TypedClient
