import TypedClient.Client.Report
import TypedClient.Proofs.Service.Imports
import TypedClient.Proofs.TypeExpr.Positions

/-!
The report on references and the imports of services. Both find the references of a client, each in its
own way: the report walks models and services once and keeps repetitions, while a service imports each
model once. They agree on the names that no model has, so without such names all imports are exported.
-/

namespace TypedClient

namespace Report

/-- A reference stands in the body, in the response or in a parameter of an operation. -/
inductive StandsInOperation (serviceName : String) (operation : Operation) :
    List Nat → DanglingReference → Prop where
  | body (given : operation.body = some content) (inside : content.type.RefersAt address name) :
      StandsInOperation serviceName operation (0 :: address)
        ⟨serviceName ++ "." ++ operation.methodName ++ " body", name⟩
  | response (given : operation.response = some content)
      (inside : content.type.RefersAt address name) :
      StandsInOperation serviceName operation (1 :: address)
        ⟨serviceName ++ "." ++ operation.methodName ++ " response", name⟩
  | parameter (declared : operation.parameters[index]? = some parameter)
      (inside : parameter.type.RefersAt address name) :
      StandsInOperation serviceName operation (2 :: index :: address)
        ⟨serviceName ++ "." ++ operation.methodName ++ " parameter " ++ parameter.name, name⟩

/-- A reference stands in a model or in a method of a service. The models come first. -/
inductive StandsIn (models : List Model) (services : List Service) :
    List Nat → DanglingReference → Prop where
  | model (declared : models[index]? = some model) (inside : model.type.RefersAt address name) :
      StandsIn models services (0 :: index :: address) ⟨"models." ++ model.name, name⟩
  | method (served : services[index]? = some service)
      (declared : service.methods[position]? = some operation)
      (inside : StandsInOperation service.name operation address reference) :
      StandsIn models services (1 :: index :: position :: address) reference

/-- The references of a type expression under the name of the place where it stands. -/
def referencesAt (location : String) (type : TypeExpr) : List DanglingReference :=
  type.references.map (DanglingReference.mk location)

theorem enumerates_referencesAt (location : String) (type : TypeExpr) :
    Enumerates (fun address reference =>
      ∃ name, type.RefersAt address name ∧ ⟨location, name⟩ = reference) (referencesAt location type) :=
  (TypeExpr.enumerates_references type).map _

theorem enumerates_operation (serviceName : String) (operation : Operation) :
    Enumerates (StandsInOperation serviceName operation)
      ((operationTypes serviceName operation).flatMap fun (location, type) =>
        referencesAt location type) := by
  let place := serviceName ++ "." ++ operation.methodName
  have body : Enumerates _ (operation.body.toList.flatMap fun content =>
      referencesAt (place ++ " body") content.type) :=
    .option fun content _ => enumerates_referencesAt _ _
  have response : Enumerates _ (operation.response.toList.flatMap fun content =>
      referencesAt (place ++ " response") content.type) :=
    .option fun content _ => enumerates_referencesAt _ _
  have parameters : Enumerates _ (operation.parameters.flatMap fun parameter =>
      referencesAt (place ++ " parameter " ++ parameter.name) parameter.type) :=
    .flatMap fun parameter _ => enumerates_referencesAt _ _
  have parts : (operationTypes serviceName operation).flatMap (fun (location, type) =>
      referencesAt location type) =
        (operation.body.toList.flatMap fun content => referencesAt (place ++ " body") content.type) ++
        (operation.response.toList.flatMap fun content =>
          referencesAt (place ++ " response") content.type) ++
        operation.parameters.flatMap fun parameter =>
          referencesAt (place ++ " parameter " ++ parameter.name) parameter.type := by
    simp [operationTypes, List.flatMap_map, Option.toList_map, place]
  rw [parts]
  refine (((body.inside 0).append (response.inside 1) ?_).append (parameters.inside 2) ?_).congr
    fun address reference => ⟨?_, ?_⟩
  · rintro _ _ _ _ ⟨_, rfl, _⟩ ⟨_, rfl, _⟩
    exact List.cons_lt_cons_iff.mpr (.inl (by decide))
  · rintro _ _ _ _ (⟨_, rfl, _⟩ | ⟨_, rfl, _⟩) ⟨_, rfl, _⟩
    all_goals exact List.cons_lt_cons_iff.mpr (.inl (by decide))
  · rintro ((⟨_, rfl, _, given, _, inside, rfl⟩ | ⟨_, rfl, _, given, _, inside, rfl⟩) |
      ⟨_, rfl, _, _, _, rfl, declared, _, inside, rfl⟩)
    · exact .body given inside
    · exact .response given inside
    · exact .parameter declared inside
  · rintro (⟨given, inside⟩ | ⟨given, inside⟩ | ⟨declared, inside⟩)
    · exact .inl (.inl ⟨_, rfl, _, given, _, inside, rfl⟩)
    · exact .inl (.inr ⟨_, rfl, _, given, _, inside, rfl⟩)
    · exact .inr ⟨_, rfl, _, _, _, rfl, declared, _, inside, rfl⟩

/-- All references of models and services in the order in which they stand. -/
theorem enumerates_referencePlaces (models : List Model) (services : List Service) :
    Enumerates (StandsIn models services) (referencePlaces models services) := by
  have inModels : Enumerates _ (models.flatMap fun model =>
      referencesAt ("models." ++ model.name) model.type) :=
    .flatMap fun model _ => enumerates_referencesAt _ _
  have inServices : Enumerates _ (services.flatMap fun service =>
      service.methods.flatMap fun operation =>
        (operationTypes service.name operation).flatMap fun (location, type) =>
          referencesAt location type) :=
    .flatMap fun service _ => .flatMap fun operation _ => enumerates_operation service.name operation
  have parts : referencePlaces models services =
      (models.flatMap fun model => referencesAt ("models." ++ model.name) model.type) ++
        services.flatMap fun service => service.methods.flatMap fun operation =>
          (operationTypes service.name operation).flatMap fun (location, type) =>
            referencesAt location type := by
    simp [referencePlaces, typedPlaces, referencesAt, List.flatMap_map, List.flatMap_assoc]
  rw [parts]
  refine ((inModels.inside 0).append (inServices.inside 1) ?_).congr fun address reference => ⟨?_, ?_⟩
  · rintro _ _ _ _ ⟨_, rfl, _⟩ ⟨_, rfl, _⟩
    exact List.cons_lt_cons_iff.mpr (.inl (by decide))
  · rintro (⟨_, rfl, _, _, _, rfl, declared, _, inside, rfl⟩ |
      ⟨_, rfl, _, _, _, rfl, served, _, _, _, rfl, declared, inside⟩)
    · exact .model declared inside
    · exact .method served declared inside
  · rintro (⟨declared, inside⟩ | ⟨served, declared, inside⟩)
    · exact .inl ⟨_, rfl, _, _, _, rfl, declared, _, inside, rfl⟩
    · exact .inr ⟨_, rfl, _, _, _, rfl, served, _, _, _, rfl, declared, inside⟩

theorem exists_mem_operationTypes {serviceName : String} {operation : Operation} :
    (∃ place ∈ operationTypes serviceName operation, place.2.Mentions name) ↔ operation.Needs name := by
  simp only [operationTypes, Operation.Needs, List.mem_append, Option.mem_toList, Option.map_eq_some_iff,
    List.mem_map, or_and_right, exists_or, or_assoc]
  simp

/-- A name is referred to by a model or by what a method takes and gives. -/
theorem exists_mem_referencePlaces {models : List Model} {services : List Service} :
    (∃ reference ∈ referencePlaces models services, reference.name = name) ↔
      (∃ model ∈ models, model.type.Mentions name) ∨
        ∃ service ∈ services, ∃ method ∈ service.methods, method.Needs name := by
  have typed : (∃ reference ∈ referencePlaces models services, reference.name = name) ↔
      ∃ place ∈ typedPlaces models services, place.2.Mentions name := by
    simp only [referencePlaces, List.mem_flatMap, List.mem_map, ← TypeExpr.mem_references]
    constructor
    · rintro ⟨_, ⟨place, member, found, inside, rfl⟩, rfl⟩
      exact ⟨place, member, inside⟩
    · rintro ⟨place, member, inside⟩
      exact ⟨_, ⟨place, member, name, inside, rfl⟩, rfl⟩
  simp only [typed, typedPlaces, List.mem_append, or_and_right, exists_or, List.mem_map,
    List.mem_flatMap]
  refine or_congr ⟨?_, ?_⟩ ⟨?_, ?_⟩
  · rintro ⟨_, ⟨model, member, rfl⟩, inside⟩
    exact ⟨model, member, inside⟩
  · rintro ⟨model, member, inside⟩
    exact ⟨_, ⟨model, member, rfl⟩, inside⟩
  · rintro ⟨place, ⟨service, member, method, declared, given⟩, inside⟩
    exact ⟨service, member, method, declared, exists_mem_operationTypes.mp ⟨place, given, inside⟩⟩
  · rintro ⟨service, member, method, declared, needed⟩
    obtain ⟨place, given, inside⟩ := exists_mem_operationTypes.mpr needed
    exact ⟨place, ⟨service, member, method, declared, given⟩, inside⟩

end Report

namespace Statement

/-- The names that statements export. -/
def exportedNames (statements : List Statement) : List String :=
  statements.filterMap fun
    | .typeAlias name _ true => some name
    | .classOf declaration => if declaration.isExported then some declaration.name else none
    | _ => none

end Statement

namespace Client

theorem exportedNames_modelsFile (models : List Model) (header : List String) :
    Statement.exportedNames (modelsFile models header).statements = models.map (·.name) := by
  simp [Statement.exportedNames, modelsFile, Model.declaration, List.filterMap_map]

theorem modelsFile_mem_files (compiled : compile document header = .ok client) :
    modelsFile client.models header ∈ client.files := by
  obtain ⟨_, _, _, _, _, _, rfl⟩ := compile_eq_ok.mp compiled
  exact List.mem_cons_of_mem _ List.mem_cons_self

/-- Only the files of services import models. -/
theorem exists_service_of_namesFrom (compiled : compile document header = .ok client)
    (member : file ∈ client.files) (imported : name ∈ ImportDecl.namesFrom "../models" file.statements) :
    ∃ service ∈ client.services, name ∈ service.imports := by
  have distinct := fun service (member : service ∈ client.services) => imports_nodup compiled member
  obtain ⟨_, _, _, _, _, _, rfl⟩ := compile_eq_ok.mp compiled
  rcases List.mem_cons.mp member with rfl | member
  · simp [ImportDecl.namesFrom, sharedFile] at imported
  rcases List.mem_cons.mp member with rfl | member
  · simp [ImportDecl.namesFrom, modelsFile, Model.declaration] at imported
  · obtain ⟨service, present, rfl⟩ := List.mem_map.mp member
    rw [Service.namesFrom_sourceFile (distinct service present)] at imported
    exact ⟨service, present, imported⟩

theorem dangling_eq_filter (models : List Model) (services : List Service) :
    (Report.ofClient models services).dangling =
      (Report.referencePlaces models services).filter fun reference =>
        reference.name ∉ models.map (·.name) :=
  List.filter_congr fun reference _ => by rw [List.contains_eq_mem, decide_not]

/-- The dangling names are the names that services import and models mention, less the names that the
file of models exports. -/
theorem dangling_iff (compiled : compile document header = .ok client) :
    (name ≠ "" ∧ ∃ reference ∈ (Report.ofClient client.models client.services).dangling,
        reference.name = name) ↔
      ((∃ service ∈ client.services, name ∈ service.imports) ∨
        (name ≠ "" ∧ ∃ model ∈ client.models, model.type.Mentions name)) ∧
      name ∉ Statement.exportedNames (modelsFile client.models header).statements := by
  have imports : (∃ service ∈ client.services, name ∈ service.imports) ↔
      name ≠ "" ∧ ∃ service ∈ client.services, ∃ method ∈ service.methods, method.Needs name := by
    constructor
    · rintro ⟨service, member, imported⟩
      obtain ⟨nonempty, needed⟩ := (mem_imports compiled member).mp imported
      exact ⟨nonempty, service, member, needed⟩
    · rintro ⟨nonempty, service, member, needed⟩
      exact ⟨service, member, (mem_imports compiled member).mpr ⟨nonempty, needed⟩⟩
  have dangling : (∃ reference ∈ (Report.ofClient client.models client.services).dangling,
        reference.name = name) ↔
      (∃ reference ∈ Report.referencePlaces client.models client.services, reference.name = name) ∧
        name ∉ client.models.map (·.name) := by
    simp only [dangling_eq_filter, List.mem_filter, decide_eq_true_iff]
    constructor
    · rintro ⟨reference, ⟨member, unknown⟩, rfl⟩
      exact ⟨⟨reference, member, rfl⟩, unknown⟩
    · rintro ⟨⟨reference, member, rfl⟩, unknown⟩
      exact ⟨reference, ⟨member, unknown⟩, rfl⟩
  rw [exportedNames_modelsFile, dangling, Report.exists_mem_referencePlaces, imports, ← and_or_left,
    or_comm, and_assoc]

/-- The report counts every reference in the models and the current methods, and lists, in the order in
which they stand, those that name no model. Their names are the ones that services import and models
mention, less those that the file of models exports. So without dangling references every name that a
file imports from the models is exported there. -/
theorem report_exact (compiled : compile document header = .ok client) :
    let report := Report.ofClient client.models client.services
    let exported := Statement.exportedNames (modelsFile client.models header).statements
    (∃ references, Enumerates (Report.StandsIn client.models client.services) references ∧
        report.checkedCount = references.length ∧
        report.dangling = references.filter fun reference =>
          reference.name ∉ client.models.map (·.name)) ∧
      report.danglingCount = report.dangling.length ∧
      modelsFile client.models header ∈ client.files ∧
      (∀ name, (name ≠ "" ∧ ∃ reference ∈ report.dangling, reference.name = name) ↔
        ((∃ service ∈ client.services, name ∈ service.imports) ∨
          (name ≠ "" ∧ ∃ model ∈ client.models, model.type.Mentions name)) ∧ name ∉ exported) ∧
      (report.danglingCount = 0 → ∀ file ∈ client.files,
        ∀ name ∈ ImportDecl.namesFrom "../models" file.statements, name ∈ exported) := by
  intro report exported
  refine ⟨⟨Report.referencePlaces client.models client.services,
    Report.enumerates_referencePlaces _ _, rfl, dangling_eq_filter _ _⟩, rfl,
    modelsFile_mem_files compiled, fun name => dangling_iff compiled, ?_⟩
  intro none file member name imported
  by_contra absent
  have needed := exists_service_of_namesFrom compiled member imported
  obtain ⟨_, reference, dangling, _⟩ := (dangling_iff compiled).mpr ⟨.inl needed, absent⟩
  exact List.not_mem_nil (List.eq_nil_of_length_eq_zero none ▸ dangling)

/-- A document with one operation, whose response is a list of users, and with the model of a user, who
has another user as manager. -/
def managedUsersDocument : Entries :=
  let manager := [(.text "$ref", .text "#/components/schemas/User")]
  let user := [(.text "type", .text "object"),
    (.text "properties", .mapping [(.text "manager", .mapping manager)])]
  (.text "components", .mapping [(.text "schemas", .mapping [(.text "User", .mapping user)])]) ::
    usersDocument

/-- What is reported, and what every file imports from the models. -/
def reportAndImports (client : Client) : Report × List (List String) :=
  (.ofClient client.models client.services,
    client.files.map fun file => ImportDecl.namesFrom "../models" file.statements)

theorem report_exact_users : ∃ client file, compile managedUsersDocument [] = .ok client ∧
    Report.ofClient client.models client.services = ⟨2, []⟩ ∧
    file ∈ client.files ∧ "User" ∈ ImportDecl.namesFrom "../models" file.statements ∧
    "User" ∈ Statement.exportedNames (modelsFile client.models []).statements := by
  have evaluated : (compile managedUsersDocument []).toOption.map reportAndImports =
      some (⟨2, []⟩, [[], [], ["User"]]) := by decide +kernel
  obtain ⟨client, compiled, seen⟩ := Outcome.map_toOption_eq_some.mp evaluated
  obtain ⟨reported, imports⟩ := Prod.mk.inj seen
  have listed : ["User"] ∈ client.files.map fun file =>
      ImportDecl.namesFrom "../models" file.statements := by simp [imports]
  obtain ⟨file, member, names⟩ := List.mem_map.mp listed
  have imported : "User" ∈ ImportDecl.namesFrom "../models" file.statements := by simp [names]
  obtain ⟨_, _, _, _, exported⟩ := report_exact compiled
  have none : (Report.ofClient client.models client.services).danglingCount = 0 := by
    rw [reported]
    rfl
  exact ⟨client, file, compiled, reported, member, imported, exported none file member "User" imported⟩

end Client

end TypedClient
