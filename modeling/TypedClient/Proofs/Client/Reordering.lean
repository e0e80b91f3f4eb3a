import Mathlib.Logic.Relation
import TypedClient.Proofs.Client.Compiled
import TypedClient.Proofs.Registry.Grouping

namespace TypedClient

namespace PathItem

/-- The services that the operations of a path item belong to. -/
def serviceNames (item : Entries) : List String :=
  (operations item).map fun (_, entries) =>
    (Operation.namesOf (Entries.field entries "operationId")).1

end PathItem

namespace Document

/-- Two neighbouring path items change places. Their operations have no service in common. -/
inductive Swapped : List (String × Entries) → List (String × Entries) → Prop where
  | here (apart : List.Disjoint (PathItem.serviceNames first.2) (PathItem.serviceNames second.2)) :
      Swapped (first :: second :: rest) (second :: first :: rest)
  | later (swapped : Swapped items others) : Swapped (item :: items) (item :: others)

theorem Swapped.symm (swapped : Swapped items others) : Swapped others items := by
  induction swapped with
  | here apart => exact .here fun _ inSecond inFirst => apart inFirst inSecond
  | later _ ih => exact .later ih

instance : Std.Symm Swapped where
  symm _ _ := Swapped.symm

/-- Two documents have the same components, and path items that are the same up to any number of
swaps. -/
structure Reordered (first second : Entries) : Prop where
  components : Entries.field first "components" = Entries.field second "components"
  present : ((Entries.field first "paths").entries?).isSome =
    ((Entries.field second "paths").entries?).isSome
  swaps : Relation.ReflTransGen Swapped (pathItems first) (pathItems second)

theorem Reordered.symm (reordered : Reordered first second) : Reordered second first where
  components := reordered.components.symm
  present := reordered.present.symm
  swaps := Relation.ReflTransGen.stdSymm.symm _ _ reordered.swaps

theorem Reordered.schemaEntries (reordered : Reordered first second) :
    schemaEntries first = schemaEntries second := by
  unfold Document.schemaEntries
  rw [reordered.components]

end Document

namespace Client

theorem declare_serviceName (success : declare path pathParameters method entries = .ok declared) :
    declared.operation.serviceName =
      (Operation.namesOf (Entries.field entries "operationId")).1 := by
  simp only [declare, Outcome.bind_eq_ok, Outcome.pure_eq_ok] at success
  obtain ⟨_, _, operation, extracted, rfl⟩ := success
  obtain ⟨_, _, _, _, _, _, _, _, _, rfl⟩ := Operation.extract_eq_ok.mp extracted
  rfl

theorem declareAll_serviceNames
    (success : declareAll path pathParameters operations = .ok declared) :
    declared.map (·.operation.serviceName) = operations.map fun (_, entries) =>
      (Operation.namesOf (Entries.field entries "operationId")).1 := by
  induction operations generalizing declared with
  | nil =>
    cases success
    rfl
  | cons first rest ih =>
    obtain ⟨method, entries⟩ := first
    simp only [declareAll, Outcome.bind_eq_ok, Outcome.pure_eq_ok] at success
    obtain ⟨one, oneRead, others, othersRead, rfl⟩ := success
    rw [List.map_cons, List.map_cons, declare_serviceName oneRead, ih othersRead]

theorem contribution_serviceNames (success : contribution path item = .ok contributed) :
    contributed.operations.map (·.serviceName) = PathItem.serviceNames item := by
  simp only [contribution, Outcome.bind_eq_ok] at success
  obtain ⟨_, _, success⟩ := success
  unfold PathItem.serviceNames
  split at success
  · rename_i none
    cases success
    rw [none]
    rfl
  · simp only [Outcome.bind_eq_ok, Outcome.pure_eq_ok] at success
    obtain ⟨declared, allDeclared, rfl⟩ := success
    rw [← declareAll_serviceNames allDeclared, List.map_map]
    rfl

theorem contributions_cons_eq_ok {one : String × Entries} :
    contributions (one :: rest) = .ok gathered ↔
      ∃ first others, contribution one.1 one.2 = .ok first ∧ contributions rest = .ok others ∧
        gathered = first :: others := by
  simp only [contributions, Outcome.bind_eq_ok, Outcome.pure_eq_ok]
  constructor
  · rintro ⟨first, firstRead, others, othersRead, rfl⟩
    exact ⟨first, others, firstRead, othersRead, rfl⟩
  · rintro ⟨first, others, firstRead, othersRead, rfl⟩
    exact ⟨first, firstRead, others, othersRead, rfl⟩

/-- The operations of a service among those that paths contribute. -/
def belongingIn (gathered : List Contribution) (serviceName : String) : List Operation :=
  Registry.belonging (gathered.flatMap (·.operations)) serviceName

theorem belongingIn_cons (first : Contribution) (rest : List Contribution) (serviceName : String) :
    belongingIn (first :: rest) serviceName =
      Registry.belonging first.operations serviceName ++ belongingIn rest serviceName := by
  simp [belongingIn, Registry.belonging]

/-- The same contributions in another order, with the operations of every service in the same order. -/
structure SameParts (gathered other : List Contribution) : Prop where
  parts : gathered.Perm other
  belonging : ∀ serviceName, belongingIn gathered serviceName = belongingIn other serviceName

theorem SameParts.trans (first : SameParts gathered middle) (second : SameParts middle other) :
    SameParts gathered other :=
  ⟨first.parts.trans second.parts, fun name => (first.belonging name).trans (second.belonging name)⟩

/-- Of two path items without a common service only one has operations of a given service. -/
theorem belonging_comm {first second : Contribution}
    (apart : List.Disjoint (first.operations.map (·.serviceName))
      (second.operations.map (·.serviceName))) (serviceName : String) :
    Registry.belonging first.operations serviceName ++
        Registry.belonging second.operations serviceName =
      Registry.belonging second.operations serviceName ++
        Registry.belonging first.operations serviceName := by
  have absent {contributed : Contribution}
      (foreign : serviceName ∉ contributed.operations.map (·.serviceName)) :
      Registry.belonging contributed.operations serviceName = [] := by
    apply List.filter_eq_nil_iff.mpr
    intro operation member same
    exact foreign (List.mem_map.mpr ⟨operation, member, beq_iff_eq.mp same⟩)
  by_cases own : serviceName ∈ first.operations.map (·.serviceName)
  · simp [absent (apart own)]
  · simp [absent own]

theorem contributions_swapped (swapped : Document.Swapped items others)
    (success : contributions items = .ok gathered) :
    ∃ other, contributions others = .ok other ∧ SameParts gathered other := by
  induction swapped generalizing gathered with
  | here apart =>
    obtain ⟨first, _, firstRead, othersRead, rfl⟩ := contributions_cons_eq_ok.mp success
    obtain ⟨second, rest, secondRead, restRead, rfl⟩ := contributions_cons_eq_ok.mp othersRead
    rw [← contribution_serviceNames firstRead, ← contribution_serviceNames secondRead] at apart
    refine ⟨second :: first :: rest, ?_, .swap second first rest, ?_⟩
    · exact contributions_cons_eq_ok.mpr ⟨second, first :: rest, secondRead,
        contributions_cons_eq_ok.mpr ⟨first, rest, firstRead, restRead, rfl⟩, rfl⟩
    · intro serviceName
      simp only [belongingIn_cons, ← List.append_assoc, belonging_comm apart serviceName]
  | later _ ih =>
    obtain ⟨first, rest, firstRead, restRead, rfl⟩ := contributions_cons_eq_ok.mp success
    obtain ⟨other, otherRead, same⟩ := ih restRead
    refine ⟨first :: other, contributions_cons_eq_ok.mpr ⟨first, other, firstRead, otherRead, rfl⟩,
      same.parts.cons first, ?_⟩
    intro serviceName
    rw [belongingIn_cons, belongingIn_cons, same.belonging]

theorem contributions_reordered (swaps : Relation.ReflTransGen Document.Swapped items others)
    (success : contributions items = .ok gathered) :
    ∃ other, contributions others = .ok other ∧ SameParts gathered other := by
  induction swaps with
  | refl => exact ⟨gathered, success, .refl gathered, fun _ => rfl⟩
  | tail _ last ih =>
    obtain ⟨middle, middleRead, same⟩ := ih
    obtain ⟨other, otherRead, sameAgain⟩ := contributions_swapped last middleRead
    exact ⟨other, otherRead, same.trans sameAgain⟩

/-- The path and the text of a file. -/
def rendered (file : SourceFile) : String × String :=
  (file.relativePath, file.render)

/-- Two clients have the same models and, up to their order, the same services, files and warnings. -/
structure SameButOrder (client other : Client) : Prop where
  models : client.models = other.models
  services : client.services.Perm other.services
  files : (client.files.map rendered).Perm (other.files.map rendered)
  warnings : client.warnings.Perm other.warnings

theorem compile_of_reordered (reordered : Document.Reordered first second)
    (compiled : compile first header = .ok client) :
    ∃ other, compile second header = .ok other ∧ SameButOrder client other := by
  obtain ⟨items, models, gathered, itemsRead, typed, success, rfl⟩ := compile_eq_ok.mp compiled
  obtain ⟨present, rfl⟩ := Document.paths_eq_ok.mp itemsRead
  obtain ⟨other, otherRead, same⟩ := contributions_reordered reordered.swaps success
  have otherTyped : Model.ofDocument second = .ok models := by
    rw [← typed, Model.ofDocument, Model.ofDocument, Document.componentSchemas, Document.componentSchemas,
      reordered.schemaEntries]
  have services : (Registry.ofOperations (gathered.flatMap (·.operations))).Perm
      (Registry.ofOperations (other.flatMap (·.operations))) :=
    Registry.ofOperations_perm same.belonging
  refine ⟨_, compile_eq_ok.mpr ⟨Document.pathItems second, models, other, ?_, otherTyped, otherRead, rfl⟩,
    rfl, services, ?_, same.parts.flatMap_right _⟩
  · exact Document.paths_eq_ok.mpr ⟨reordered.present ▸ present, rfl⟩
  · exact (((services.map (·.sourceFile header)).cons _).cons _).map rendered

/-- The order of paths matters only within a service: of two documents whose paths are the same up to
swaps of neighbours without a common service, one compiles when the other does, and to the same client up
to the order of services, files and warnings. -/
theorem compile_reordered (reordered : Document.Reordered first second) (header : List String) :
    ((∃ client, compile first header = .ok client) ↔ ∃ client, compile second header = .ok client) ∧
      ∀ client other, compile first header = .ok client → compile second header = .ok other →
        SameButOrder client other := by
  refine ⟨⟨?_, ?_⟩, ?_⟩
  · rintro ⟨client, compiled⟩
    obtain ⟨other, otherCompiled, _⟩ := compile_of_reordered reordered compiled
    exact ⟨other, otherCompiled⟩
  · rintro ⟨client, compiled⟩
    obtain ⟨other, otherCompiled, _⟩ := compile_of_reordered reordered.symm compiled
    exact ⟨other, otherCompiled⟩
  · intro client other compiled otherCompiled
    obtain ⟨found, foundCompiled, same⟩ := compile_of_reordered reordered compiled
    cases otherCompiled.symm.trans foundCompiled
    exact same

/-- A path with one operation, given by its identifier. -/
def pathEntry (path operationId : String) : Value × Value :=
  (.text path, .mapping [(.text "get", .mapping [(.text "operationId", .text operationId)])])

/-- A document with paths of users, of orders and of users again. -/
def usersFirst : Entries :=
  [(.text "paths", .mapping [pathEntry "/users" "UserController_list",
    pathEntry "/orders" "OrderController_list", pathEntry "/users/all" "UserController_all"])]

/-- The same document with the path of orders in front. -/
def ordersFirst : Entries :=
  [(.text "paths", .mapping [pathEntry "/orders" "OrderController_list",
    pathEntry "/users" "UserController_list", pathEntry "/users/all" "UserController_all"])]

/-- When a path of users and a path of orders change places, their services do too, and no more. -/
theorem compile_reordered_orders : ∃ client other,
    Document.Reordered usersFirst ordersFirst ∧
      compile usersFirst [] = .ok client ∧ compile ordersFirst [] = .ok other ∧
      client.services.map (·.name) = ["UserService", "OrderService"] ∧
      other.services.map (·.name) = ["OrderService", "UserService"] ∧ SameButOrder client other := by
  have users : PathItem.serviceNames [(.text "get", .mapping [(.text "operationId",
      .text "UserController_list")])] = ["UserService"] := by decide +kernel
  have orders : PathItem.serviceNames [(.text "get", .mapping [(.text "operationId",
      .text "OrderController_list")])] = ["OrderService"] := by decide +kernel
  have reordered : Document.Reordered usersFirst ordersFirst :=
    ⟨rfl, rfl, .single (.here (by rw [users, orders]; simp))⟩
  have names : (compile usersFirst []).toOption.map (fun client => client.services.map (·.name)) =
      some ["UserService", "OrderService"] := by decide +kernel
  have otherNames : (compile ordersFirst []).toOption.map (fun other => other.services.map (·.name)) =
      some ["OrderService", "UserService"] := by decide +kernel
  obtain ⟨client, compiled, clientNames⟩ := Outcome.map_toOption_eq_some.mp names
  obtain ⟨other, otherCompiled, otherNames⟩ := Outcome.map_toOption_eq_some.mp otherNames
  exact ⟨client, other, reordered, compiled, otherCompiled, clientNames, otherNames,
    (compile_reordered reordered []).2 client other compiled otherCompiled⟩

end Client

end TypedClient
