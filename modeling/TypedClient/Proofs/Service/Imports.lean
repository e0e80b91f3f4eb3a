import TypedClient.Proofs.Client.Compiled
import TypedClient.Proofs.Operation.Content
import TypedClient.Proofs.Registry.Grouping
import TypedClient.Proofs.TypeExpr.Mentions

namespace TypedClient

namespace Operation

/-- The type of the body, of the response or of a parameter mentions a model. -/
def Needs (operation : Operation) (name : String) : Prop :=
  (∃ content, operation.body = some content ∧ content.type.Mentions name) ∨
    (∃ content, operation.response = some content ∧ content.type.Mentions name) ∨
    ∃ parameter ∈ operation.parameters, parameter.type.Mentions name

theorem mem_importedTypes {operation : Operation} {type : TypeExpr} :
    type ∈ operation.importedTypes ↔
      (∃ content, operation.body = some content ∧ content.type = type) ∨
        (∃ content, operation.response = some content ∧ content.type = type) ∨
        ∃ parameter ∈ operation.parameters, parameter.type = type := by
  simp only [importedTypes, List.mem_append, Option.mem_toList, Option.map_eq_some_iff, List.mem_map]
  constructor
  · rintro ((response | body) | parameter)
    · exact .inr (.inl response)
    · exact .inl body
    · exact .inr (.inr parameter)
  · rintro (body | response | parameter)
    · exact .inl (.inr body)
    · exact .inl (.inl response)
    · exact .inr parameter

theorem needs_iff {operation : Operation} {name : String} :
    operation.Needs name ↔ ∃ type ∈ operation.importedTypes, type.Mentions name := by
  simp only [mem_importedTypes, Needs]
  constructor
  · rintro (⟨content, found, inside⟩ | ⟨content, found, inside⟩ | ⟨parameter, member, inside⟩)
    · exact ⟨content.type, .inl ⟨content, found, rfl⟩, inside⟩
    · exact ⟨content.type, .inr (.inl ⟨content, found, rfl⟩), inside⟩
    · exact ⟨parameter.type, .inr (.inr ⟨parameter, member, rfl⟩), inside⟩
  · rintro ⟨type, ⟨content, found, rfl⟩ | ⟨content, found, rfl⟩ | ⟨parameter, member, rfl⟩, inside⟩
    · exact .inl ⟨content, found, inside⟩
    · exact .inr (.inl ⟨content, found, inside⟩)
    · exact .inr (.inr ⟨parameter, member, inside⟩)

/-- The models that a declared operation needs are the names that its types mention: the model that
the body refers to is mentioned by the type of the body. -/
theorem Declared.mem_modelNames {operation : Operation} (declared : operation.Declared) :
    name ∈ operation.modelNames ↔ name ≠ "" ∧ operation.Needs name := by
  have inTypes : name ∈ operation.importedTypes.flatMap (·.modelNames) ↔
      name ≠ "" ∧ operation.Needs name := by
    simp only [List.mem_flatMap, TypeExpr.mem_modelNames, needs_iff]
    constructor
    · rintro ⟨type, member, nonempty, inside⟩
      exact ⟨nonempty, type, member, inside⟩
    · rintro ⟨nonempty, type, member, inside⟩
      exact ⟨type, member, nonempty, inside⟩
  simp only [modelNames, List.mem_eraseDups, List.mem_append, inTypes, List.mem_filter,
    Option.mem_toList, Option.bind_eq_some_iff]
  constructor
  · rintro (⟨⟨content, found, referred⟩, _⟩ | needed)
    · obtain ⟨_, _, _, _, extracted⟩ := declared
      obtain ⟨_, _, _, body, _, _, _, isBody, _, rfl⟩ := extract_eq_ok.mp extracted
      subst found
      obtain ⟨reference, nonempty⟩ := (Content.consistent_ofRequest isBody name).mp referred
      exact ⟨nonempty, .inl ⟨content, rfl, reference ▸ .ref⟩⟩
    · exact needed
  · exact .inr

end Operation

namespace ImportDecl

/-- The names that statements import from a module. -/
def namesFrom (module : String) (statements : List Statement) : List String :=
  statements.flatMap fun
    | .importNames declaration => if declaration.module = module then declaration.names else []
    | _ => []

end ImportDecl

namespace Service

/-- The statements of the file of a service: the import of the configuration, the import of models
unless there are none, and the class. -/
theorem sourceFile_statements (service : Service) (header : List String) :
    (service.sourceFile header).statements =
      service.configurationImport ::
        (if service.imports.isEmpty then []
          else [.importNames ⟨"../models", service.imports.eraseDups, true⟩]) ++
        [.classOf service.classDecl] := by
  have first : [service.configurationImport].any (ImportDecl.isFrom "../models") = false := by
    simp [configurationImport, ImportDecl.isFrom]
  have single (added : Statement) : ImportDecl.insertAfterImports added [service.configurationImport] =
      [service.configurationImport, added] := by
    simp [ImportDecl.insertAfterImports, configurationImport, Statement.isImport]
  unfold sourceFile ImportDecl.addNames
  rw [first]
  by_cases empty : service.imports.isEmpty <;> simp [empty, single]

theorem namesFrom_sourceFile {service : Service} (distinct : service.imports.Nodup)
    (header : List String) :
    ImportDecl.namesFrom "../models" (service.sourceFile header).statements = service.imports := by
  rw [sourceFile_statements, Distinct.eraseDups_eq_self distinct]
  by_cases empty : service.imports.isEmpty
  · simp [ImportDecl.namesFrom, configurationImport, List.isEmpty_iff.mp empty]
  · simp [ImportDecl.namesFrom, configurationImport, empty]

end Service

namespace Client

theorem mem_imports (compiled : compile document header = .ok client)
    (member : service ∈ client.services) :
    name ∈ service.imports ↔ name ≠ "" ∧ ∃ method ∈ service.methods, method.Needs name := by
  obtain ⟨operations, same, declared⟩ := services_of_compile compiled
  rw [same] at member
  have made := (Registry.groups_ofOperations operations).services service member
  have each : ∀ method ∈ service.methods, method.Declared := by
    intro method present
    have belonging := Service.mem_of_latest (made.latest method present)
    exact declared method (List.mem_of_mem_filter belonging)
  rw [made.imports, List.mem_eraseDups, List.mem_flatMap]
  constructor
  · rintro ⟨method, present, needed⟩
    obtain ⟨nonempty, needs⟩ := (each method present).mem_modelNames.mp needed
    exact ⟨nonempty, method, present, needs⟩
  · rintro ⟨nonempty, method, present, needs⟩
    exact ⟨method, present, (each method present).mem_modelNames.mpr ⟨nonempty, needs⟩⟩

theorem imports_nodup (compiled : compile document header = .ok client)
    (member : service ∈ client.services) : service.imports.Nodup := by
  obtain ⟨operations, same, _⟩ := services_of_compile compiled
  rw [same] at member
  rw [((Registry.groups_ofOperations operations).services service member).imports]
  exact Distinct.nodup_eraseDups _

theorem sourceFile_mem_files (compiled : compile document header = .ok client)
    (member : service ∈ client.services) : service.sourceFile header ∈ client.files := by
  obtain ⟨_, _, _, _, _, _, rfl⟩ := compile_eq_ok.mp compiled
  exact List.mem_cons_of_mem _ (List.mem_cons_of_mem _ (List.mem_map.mpr ⟨service, member, rfl⟩))

/-- A service of a compiled client imports, each once, exactly the models that its methods mention,
and so does its file. That the body of an operation refers to a model and that the type of the body
is a reference to it are one fact, for every schema. -/
theorem imports_exact (compiled : compile document header = .ok client) :
    (∀ service ∈ client.services,
      service.imports.Nodup ∧ "" ∉ service.imports ∧
      (∀ name, name ∈ service.imports ↔ name ≠ "" ∧ ∃ method ∈ service.methods, method.Needs name) ∧
      service.sourceFile header ∈ client.files ∧
      ImportDecl.namesFrom "../models" (service.sourceFile header).statements = service.imports) ∧
    ∀ schema name, Content.importNameOf schema = some name ↔
      TypeExpr.ofSchema (.mapping schema) = .ok (.ref name) ∧ name ≠ "" := by
  refine ⟨?_, Content.importNameOf_eq_some⟩
  intro service member
  have distinct := imports_nodup compiled member
  refine ⟨distinct, ?_, fun name => mem_imports compiled member, sourceFile_mem_files compiled member,
    Service.namesFrom_sourceFile distinct header⟩
  intro empty
  exact ((mem_imports compiled member).mp empty).1 rfl

/-- A document with one operation, whose response is a list of users. -/
def usersDocument : Entries :=
  let schema := [(.text "type", .text "array"),
    (.text "items", .mapping [(.text "$ref", .text "#/components/schemas/User")])]
  let media := [(.text "application/json", .mapping [(.text "schema", .mapping schema)])]
  let response := [(.text "content", .mapping media)]
  let operation := [(.text "operationId", .text "UserController_list"),
    (.text "responses", .mapping [(.text "200", .mapping response)])]
  [(.text "paths", .mapping [(.text "/users", .mapping [(.text "get", .mapping operation)])])]

theorem usersDocument_imports : ∃ client, compile usersDocument [] = .ok client ∧
    client.services.map (·.imports) = [["User"]] ∧
    ∀ service ∈ client.services, ∀ name,
      name ∈ service.imports ↔ name ≠ "" ∧ ∃ method ∈ service.methods, method.Needs name := by
  have evaluated : (compile usersDocument []).toOption.map
      (fun client => client.services.map (·.imports)) = some [["User"]] := by decide +kernel
  cases compiled : compile usersDocument [] with
  | error cause => simp [compiled, Except.toOption] at evaluated
  | ok client =>
    refine ⟨client, rfl, ?_, fun service member => ((imports_exact compiled).1 service member).2.2.1⟩
    simpa [compiled, Except.toOption] using evaluated

end Client

end TypedClient
