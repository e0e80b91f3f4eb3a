import TypedClient.Proofs.Name.Fresh
import TypedClient.Proofs.Service.Imports
import TypedClient.Proofs.Text.Characters

/-!
The names at the top of the file of a service: the type of the client configuration, the imported models
and the class. The configuration gets out of the way of models of its name, but nothing gets out of the
way of the class.
-/

namespace TypedClient

namespace ImportDecl

/-- What stands behind the first occurrence of a word. -/
def behind (word : List Char) : List Char → Option (List Char)
  | [] => none
  | c :: rest => ((c :: rest).dropPrefix? word).or (behind word rest)

theorem behind_append (apart : first ∉ front) (word rest : List Char) :
    behind (first :: word) (front ++ (first :: word ++ rest)) = some rest := by
  induction front with
  | nil =>
    change ((first :: word ++ rest).dropPrefix? (first :: word)).or _ = some rest
    rw [Text.dropPrefix?_append_self]
    rfl
  | cons c front ih =>
    obtain ⟨other, apart⟩ := List.ne_and_not_mem_of_not_mem_cons apart
    have skipped : behind (first :: word) (c :: (front ++ (first :: word ++ rest))) =
        behind (first :: word) (front ++ (first :: word ++ rest)) := by
      simp [behind, List.dropPrefix?, Ne.symm other]
    exact skipped.trans (ih apart)

/-- The name inside the file of what is imported, which may be an alias. -/
def localName (item : String) : String :=
  ((behind " as ".toList item.toList).map String.ofList).getD item

end ImportDecl

namespace Service

/-- The names at the top of the file of a service: of the configuration, of the models and of classes. -/
def topNames (statements : List Statement) : List String :=
  (ImportDecl.namesFrom "../utils" statements).map ImportDecl.localName ++
    ImportDecl.namesFrom "../models" statements ++
    statements.filterMap fun
      | .classOf declaration => some declaration.name
      | _ => none

theorem localName_configuration (name : String) :
    ImportDecl.localName (configurationType ++ " as " ++ name) = name := by
  have chars : (configurationType ++ " as " ++ name).toList =
      configurationType.toList ++ (" as ".toList ++ name.toList) := by
    simp [String.append_assoc]
  have found : ImportDecl.behind " as ".toList
      (configurationType.toList ++ (" as ".toList ++ name.toList)) = some name.toList :=
    ImportDecl.behind_append (by decide) _ _
  rw [ImportDecl.localName, chars, found]
  simp

theorem topNames_sourceFile {service : Service} (distinct : service.imports.Nodup)
    (header : List String) :
    topNames (service.sourceFile header).statements =
      service.configurationName :: (service.imports ++ [service.name]) := by
  have imported : ImportDecl.namesFrom "../utils" (service.sourceFile header).statements =
      ImportDecl.namesFrom "../utils" [service.configurationImport] := by
    rw [sourceFile_statements]
    by_cases empty : service.imports.isEmpty <;> simp [ImportDecl.namesFrom, empty]
  have configuration : (ImportDecl.namesFrom "../utils" (service.sourceFile header).statements).map
      ImportDecl.localName = [service.configurationName] := by
    rw [imported]
    by_cases own : service.configurationName = configurationType
    · have plain : ImportDecl.localName configurationType = configurationType := by decide
      simp [ImportDecl.namesFrom, configurationImport, own, plain]
    · simp [ImportDecl.namesFrom, configurationImport, own, localName_configuration]
  have classes : (service.sourceFile header).statements.filterMap (fun
      | .classOf declaration => some declaration.name
      | _ => none) = [service.name] := by
    rw [sourceFile_statements]
    by_cases empty : service.imports.isEmpty <;> simp [configurationImport, classDecl, empty]
  rw [topNames, configuration, namesFrom_sourceFile distinct, classes]
  rfl

theorem configurationName_not_mem (service : Service) :
    service.configurationName ∉ service.imports := by
  unfold configurationName
  split
  · exact freshName_not_mem _ _
  · rename_i free
    simpa using free

end Service

namespace Client

/-- The names at the top of the file of a service are distinct exactly when the class has neither the
name of the configuration nor that of an imported model. The configuration and the models are always
apart. -/
theorem topNames_nodup_iff (compiled : compile document header = .ok client)
    (member : service ∈ client.services) :
    service.sourceFile header ∈ client.files ∧
      Service.topNames (service.sourceFile header).statements =
        service.configurationName :: (service.imports ++ [service.name]) ∧
      (service.configurationName :: service.imports).Nodup ∧
      ((Service.topNames (service.sourceFile header).statements).Nodup ↔
        service.name ≠ service.configurationName ∧ service.name ∉ service.imports) := by
  have distinct := imports_nodup compiled member
  have names := Service.topNames_sourceFile distinct header
  have apart : (service.configurationName :: service.imports).Nodup :=
    List.nodup_cons.mpr ⟨service.configurationName_not_mem, distinct⟩
  refine ⟨sourceFile_mem_files compiled member, names, apart, ?_⟩
  rw [names, ← List.cons_append, (List.perm_append_singleton _ _).nodup_iff, List.nodup_cons,
    List.mem_cons, not_or]
  exact and_iff_left apart

/-- A document with one operation, whose response is a model. -/
def modelDocument (operationId model : String) : Entries :=
  let schema := [(.text "$ref", .text ("#/components/schemas/" ++ model))]
  let media := [(.text "application/json", .mapping [(.text "schema", .mapping schema)])]
  let response := [(.text "content", .mapping media)]
  let operation := [(.text "operationId", .text operationId),
    (.text "responses", .mapping [(.text "200", .mapping response)])]
  [(.text "paths", .mapping [(.text "/a", .mapping [(.text "get", .mapping operation)])])]

/-- The names at the top of the files of services. -/
def allTopNames (client : Client) : List (List String) :=
  client.services.map fun service => Service.topNames (service.sourceFile []).statements

/-- Beside a model of its name the configuration has an alias. -/
theorem topNames_aliased : ∃ client service,
    compile (modelDocument "Users_get" "Configuration") [] = .ok client ∧
      service ∈ client.services ∧
      Service.topNames (service.sourceFile []).statements =
        ["ClientConfiguration", "Configuration", "Users"] ∧
      ((Service.topNames (service.sourceFile []).statements).Nodup ↔
        service.name ≠ service.configurationName ∧ service.name ∉ service.imports) := by
  have evaluated : (compile (modelDocument "Users_get" "Configuration") []).toOption.map allTopNames =
      some [["ClientConfiguration", "Configuration", "Users"]] := by decide +kernel
  obtain ⟨client, compiled, names⟩ := Outcome.map_toOption_eq_some.mp evaluated
  obtain ⟨service, only, same⟩ := List.map_eq_singleton_iff.mp names
  have member : service ∈ client.services := only ▸ List.mem_singleton_self service
  exact ⟨client, service, compiled, member, same, (topNames_nodup_iff compiled member).2.2.2⟩

/-- A service named as the configuration has two things of one name in its file. -/
theorem topNames_clash : ∃ client service,
    compile (modelDocument "Configuration_check" "User") [] = .ok client ∧
      service ∈ client.services ∧
      ¬(Service.topNames (service.sourceFile []).statements).Nodup := by
  have evaluated : (compile (modelDocument "Configuration_check" "User") []).toOption.map allTopNames =
      some [["Configuration", "User", "Configuration"]] := by decide +kernel
  obtain ⟨client, compiled, names⟩ := Outcome.map_toOption_eq_some.mp evaluated
  obtain ⟨service, only, same⟩ := List.map_eq_singleton_iff.mp names
  refine ⟨client, service, compiled, only ▸ List.mem_singleton_self service, ?_⟩
  rw [same]
  decide

end Client

end TypedClient
