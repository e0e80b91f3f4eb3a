import Mathlib.Data.List.Forall2
import TypedClient.Client.Compile
import TypedClient.Proofs.Operation.Extract

namespace TypedClient

namespace Document

/-- The path items of a document; without a mapping of paths there are none. -/
def pathItems (document : Entries) : List (String × Entries) :=
  (((Entries.field document "paths").entries?).getD []).filterMap pathEntry?

theorem paths_eq_ok : paths document = .ok items ↔
    ((Entries.field document "paths").entries?).isSome = true ∧ items = pathItems document := by
  unfold paths pathItems
  cases (Entries.field document "paths").entries? <;> simp [eq_comm]

end Document

namespace Client

theorem declare_operation (success : declare path pathParameters method entries = .ok declared) :
    declared.operation.Declared := by
  simp only [declare, Outcome.bind_eq_ok, Outcome.pure_eq_ok] at success
  obtain ⟨_, _, operation, extracted, rfl⟩ := success
  exact ⟨path, method, entries, pathParameters, extracted⟩

theorem declareAll_operations
    (success : declareAll path pathParameters operations = .ok declared) :
    ∀ one ∈ declared, one.operation.Declared := by
  induction operations generalizing declared with
  | nil =>
    cases success
    simp
  | cons first rest ih =>
    obtain ⟨method, entries⟩ := first
    simp only [declareAll, Outcome.bind_eq_ok, Outcome.pure_eq_ok] at success
    obtain ⟨one, oneRead, others, othersRead, rfl⟩ := success
    intro item member
    rcases List.mem_cons.mp member with here | there
    · exact here ▸ declare_operation oneRead
    · exact ih othersRead item there

theorem contribution_operations (success : contribution path item = .ok contributed) :
    ∀ operation ∈ contributed.operations, operation.Declared := by
  simp only [contribution, Outcome.bind_eq_ok] at success
  obtain ⟨_, _, success⟩ := success
  split at success
  · cases success
    simp
  · simp only [Outcome.bind_eq_ok, Outcome.pure_eq_ok] at success
    obtain ⟨declared, read, rfl⟩ := success
    intro operation member
    obtain ⟨one, present, rfl⟩ := List.mem_map.mp member
    exact declareAll_operations read one present

theorem contributions_operations (success : contributions paths = .ok contributed) :
    ∀ operation ∈ contributed.flatMap (·.operations), operation.Declared := by
  induction paths generalizing contributed with
  | nil =>
    cases success
    simp
  | cons first rest ih =>
    obtain ⟨path, item⟩ := first
    simp only [contributions, Outcome.bind_eq_ok, Outcome.pure_eq_ok] at success
    obtain ⟨one, oneRead, others, othersRead, rfl⟩ := success
    intro operation member
    rcases List.mem_append.mp (List.flatMap_cons ▸ member) with here | there
    · exact contribution_operations oneRead operation here
    · exact ih othersRead operation there

/-- A model has the name and the type of a component schema. -/
def IsModelOf (schema : String × Value) (model : Model) : Prop :=
  schema.1 = model.name ∧ TypeExpr.ofSchema schema.2 = .ok model.type

theorem forall₂_of_ofSchemas {schemas : List (String × Value)} {models : List Model}
    (typed : Model.ofSchemas schemas = .ok models) : List.Forall₂ IsModelOf schemas models := by
  induction schemas generalizing models with
  | nil =>
    cases typed
    exact .nil
  | cons first rest ih =>
    obtain ⟨name, schema⟩ := first
    simp only [Model.ofSchemas, Outcome.bind_eq_ok, Outcome.pure_eq_ok] at typed
    obtain ⟨type, here, others, othersTyped, rfl⟩ := typed
    exact .cons ⟨rfl, here⟩ (ih othersTyped)

/-- The models are those of the component schemas in order. -/
theorem forall₂_of_ofDocument {models : List Model} (typed : Model.ofDocument document = .ok models) :
    List.Forall₂ IsModelOf (Document.componentSchemas document) models := by
  obtain ⟨_, _, typed⟩ := Outcome.bind_eq_ok.mp typed
  exact forall₂_of_ofSchemas typed

theorem names_of_ofDocument {models : List Model} (typed : Model.ofDocument document = .ok models) :
    models.map (·.name) = (Document.componentSchemas document).map (·.1) := by
  have same := List.forall₂_map_left_iff.mpr (List.forall₂_map_right_iff.mpr
    ((forall₂_of_ofDocument typed).imp fun _ _ isModel => isModel.1))
  exact (List.forall₂_eq_eq_eq ▸ same : _ = _).symm

/-- Compiling succeeds when the paths and their operations can be read and the models have types. -/
theorem compile_eq_ok {client : Client} :
    compile document header = .ok client ↔
      ∃ paths models read,
        Document.paths document = .ok paths ∧
        Model.ofDocument document = .ok models ∧
        contributions paths = .ok read ∧
        client = {
          files := sharedFile header :: modelsFile models header ::
            (Registry.ofOperations (read.flatMap (·.operations))).map (·.sourceFile header)
          models
          services := Registry.ofOperations (read.flatMap (·.operations))
          warnings := read.flatMap (·.warnings) } := by
  simp only [compile, Outcome.bind_eq_ok, Outcome.pure_eq_ok]
  constructor
  · rintro ⟨paths, pathsRead, models, typed, read, success, rfl⟩
    exact ⟨paths, models, read, pathsRead, typed, success, rfl⟩
  · rintro ⟨paths, models, read, pathsRead, typed, success, rfl⟩
    exact ⟨paths, pathsRead, models, typed, read, success, rfl⟩

/-- The services of a client are the registry of operations that the document declares. -/
theorem services_of_compile (compiled : compile document header = .ok client) :
    ∃ operations, client.services = Registry.ofOperations operations ∧
      ∀ operation ∈ operations, operation.Declared := by
  obtain ⟨paths, models, read, _, _, success, rfl⟩ := compile_eq_ok.mp compiled
  exact ⟨read.flatMap (·.operations), rfl, contributions_operations success⟩

end Client

end TypedClient
