import Mathlib.Data.List.Nodup
import TypedClient.Proofs.Distinct
import TypedClient.Proofs.Keyed
import TypedClient.Service.Registry

namespace TypedClient

namespace Service

theorem putMethod_eq (operation : Operation) (methods : List Operation) :
    putMethod operation methods =
      Keyed.alter (·.methodName) operation.methodName (fun _ => operation) operation methods := by
  induction methods with
  | nil => rfl
  | cons existing rest ih => simp only [putMethod, Keyed.alter, ih]

theorem map_putMethod (operation : Operation) (methods : List Operation) :
    (putMethod operation methods).map (·.methodName) =
      if operation.methodName ∈ methods.map (·.methodName) then methods.map (·.methodName)
      else methods.map (·.methodName) ++ [operation.methodName] := by
  rw [putMethod_eq]
  exact Keyed.map_alter (fun _ _ => rfl) rfl methods

theorem mem_putMethod {operation method : Operation} {methods : List Operation}
    (distinct : (methods.map (·.methodName)).Nodup) (member : method ∈ putMethod operation methods) :
    method = operation ∨ (method ∈ methods ∧ method.methodName ≠ operation.methodName) := by
  rw [putMethod_eq] at member
  rcases Keyed.mem_alter distinct member with kept | ⟨_, _, replaced⟩
  · exact .inr kept
  · exact .inl replaced

/-- The last operation of a name. -/
def latest (operations : List Operation) (methodName : String) : Option Operation :=
  operations.reverse.find? fun operation => operation.methodName == methodName

theorem latest_concat (operations : List Operation) (operation : Operation) (methodName : String) :
    latest (operations ++ [operation]) methodName =
      if operation.methodName = methodName then some operation else latest operations methodName := by
  by_cases same : operation.methodName = methodName <;> simp [latest, same]

theorem mem_of_latest (found : latest operations methodName = some operation) :
    operation ∈ operations :=
  List.mem_reverse.mp (List.mem_of_find?_eq_some found)

/-- A service made of operations: a method for every name in order of first occurrence, the last
operation of each name, and the models that these methods need. -/
structure MadeOf (operations : List Operation) (service : Service) : Prop where
  methodNames : service.methods.map (·.methodName) = (operations.map (·.methodName)).eraseDups
  latest : ∀ method ∈ service.methods, latest operations method.methodName = some method
  imports : service.imports = (service.methods.flatMap (·.modelNames)).eraseDups

theorem madeOf_empty (name : String) : MadeOf [] (empty name) :=
  ⟨rfl, by simp [empty], rfl⟩

theorem MadeOf.distinct (made : MadeOf operations service) :
    (service.methods.map (·.methodName)).Nodup := by
  rw [made.methodNames]
  exact Distinct.nodup_eraseDups _

/-- Adding an operation to a service adds it to the operations that the service is made of. -/
theorem MadeOf.register (made : MadeOf operations service) (operation : Operation) :
    MadeOf (operations ++ [operation]) (service.register operation) where
  methodNames := by
    have known : operation.methodName ∈ service.methods.map (·.methodName) ↔
        operation.methodName ∈ operations.map (·.methodName) := by
      rw [made.methodNames, List.mem_eraseDups]
    rw [List.map_append, List.map_singleton, Distinct.eraseDups_concat, ← made.methodNames]
    simp only [Service.register, map_putMethod, known]
  latest := by
    intro method member
    rw [latest_concat]
    rcases mem_putMethod made.distinct member with replaced | ⟨kept, other⟩
    · simp [replaced]
    · rw [if_neg (Ne.symm other)]
      exact made.latest method kept
  imports := rfl

/-- The operations determine the methods of a service made of them. -/
theorem MadeOf.methods_eq (made : MadeOf operations service) :
    service.methods =
      (operations.map (·.methodName)).eraseDups.filterMap (Service.latest operations) := by
  rw [← made.methodNames, List.filterMap_map]
  have each : ∀ method ∈ service.methods,
      (Service.latest operations ∘ (·.methodName)) method = some method := made.latest
  rw [List.filterMap_congr each, List.filterMap_some]

theorem MadeOf.unique (first : MadeOf operations service) (second : MadeOf operations other)
    (sameName : service.name = other.name) : service = other := by
  have sameMethods : service.methods = other.methods := first.methods_eq.trans second.methods_eq.symm
  have sameImports : service.imports = other.imports := by
    rw [first.imports, second.imports, sameMethods]
  cases service
  cases other
  simp_all

end Service

namespace Registry

theorem register_eq (operation : Operation) (registry : Registry) :
    register operation registry =
      Keyed.alter (·.name) operation.serviceName (·.register operation)
        (Service.empty operation.serviceName) registry := by
  induction registry with
  | nil => rfl
  | cons service rest ih => simp only [register, Keyed.alter, ih]

theorem map_register (operation : Operation) (registry : Registry) :
    (register operation registry).map (·.name) =
      if operation.serviceName ∈ registry.map (·.name) then registry.map (·.name)
      else registry.map (·.name) ++ [operation.serviceName] := by
  have kept : ∀ service : Service, service.name = operation.serviceName →
      (service.register operation).name = operation.serviceName := fun _ same => same
  rw [register_eq]
  exact Keyed.map_alter kept rfl registry

theorem ofOperations_concat (operations : List Operation) (operation : Operation) :
    ofOperations (operations ++ [operation]) = register operation (ofOperations operations) :=
  List.foldl_concat ..

/-- The operations that belong to a service. -/
def belonging (operations : List Operation) (serviceName : String) : List Operation :=
  operations.filter fun operation => operation.serviceName == serviceName

theorem belonging_concat (operations : List Operation) (operation : Operation)
    (serviceName : String) :
    belonging (operations ++ [operation]) serviceName =
      if operation.serviceName = serviceName then belonging operations serviceName ++ [operation]
      else belonging operations serviceName := by
  by_cases same : operation.serviceName = serviceName <;> simp [belonging, same]

/-- A registry groups operations: a service for every name in order of first occurrence, made of the
operations that belong to it. -/
structure Groups (operations : List Operation) (registry : Registry) : Prop where
  serviceNames : registry.map (·.name) = (operations.map (·.serviceName)).eraseDups
  services : ∀ service ∈ registry, service.MadeOf (belonging operations service.name)

theorem Groups.distinct (groups : Groups operations registry) : (registry.map (·.name)).Nodup := by
  rw [groups.serviceNames]
  exact Distinct.nodup_eraseDups _

theorem Groups.belonging_eq_nil (groups : Groups operations registry)
    (absent : serviceName ∉ registry.map (·.name)) : belonging operations serviceName = [] := by
  rw [groups.serviceNames, List.mem_eraseDups] at absent
  apply List.filter_eq_nil_iff.mpr
  intro operation member same
  exact absent (List.mem_map.mpr ⟨operation, member, beq_iff_eq.mp same⟩)

/-- Adding an operation keeps the grouping, whichever of the services it belongs to. -/
theorem Groups.register (groups : Groups operations registry) (operation : Operation) :
    Groups (operations ++ [operation]) (Registry.register operation registry) where
  serviceNames := by
    have known : operation.serviceName ∈ registry.map (·.name) ↔
        operation.serviceName ∈ operations.map (·.serviceName) := by
      rw [groups.serviceNames, List.mem_eraseDups]
    rw [List.map_append, List.map_singleton, Distinct.eraseDups_concat, ← groups.serviceNames,
      map_register]
    simp only [known]
  services := by
    intro service member
    rw [register_eq] at member
    rcases Keyed.mem_alter groups.distinct member with ⟨kept, other⟩ | ⟨old, source, changed⟩
    · rw [belonging_concat, if_neg (Ne.symm other)]
      exact groups.services service kept
    · -- A new service is an empty one, which is made of no operations.
      have oldMade : old.MadeOf (belonging operations operation.serviceName) ∧
          old.name = operation.serviceName := by
        rcases source with ⟨present, under⟩ | ⟨absent, created⟩
        · exact ⟨under ▸ groups.services old present, under⟩
        · rw [groups.belonging_eq_nil absent, created]
          exact ⟨Service.madeOf_empty _, rfl⟩
      have sameName : operation.serviceName = service.name := by rw [changed]; exact oldMade.2.symm
      rw [belonging_concat, if_pos sameName, ← sameName, changed]
      exact oldMade.1.register operation

theorem groups_ofOperations (operations : List Operation) :
    Groups operations (ofOperations operations) := by
  induction operations using List.reverseRecOn with
  | nil => exact ⟨rfl, by simp [ofOperations]⟩
  | append_singleton operations operation ih =>
    rw [ofOperations_concat]
    exact ih.register operation

theorem Groups.unique (first : Groups operations registry) (second : Groups operations other) :
    registry = other := by
  have sameNames : registry.map (·.name) = other.map (·.name) :=
    first.serviceNames.trans second.serviceNames.symm
  have sameLength : registry.length = other.length := by simpa using congrArg List.length sameNames
  apply List.ext_getElem sameLength
  intro index inFirst inSecond
  have sameName : registry[index].name = other[index].name := by
    simpa [inFirst, inSecond] using congrArg (·[index]?) sameNames
  have firstMade := first.services _ (List.getElem_mem inFirst)
  have secondMade := second.services _ (List.getElem_mem inSecond)
  exact firstMade.unique (sameName ▸ secondMade) sameName

theorem Groups.mem_of_belonging (first : Groups operations registry) (second : Groups others other)
    (same : ∀ serviceName, belonging operations serviceName = belonging others serviceName)
    (member : service ∈ registry) : service ∈ other := by
  have named : service.name ∈ operations.map (·.serviceName) := by
    rw [← List.mem_eraseDups, ← first.serviceNames]
    exact List.mem_map_of_mem member
  obtain ⟨operation, present, under⟩ := List.mem_map.mp named
  have inOthers : operation ∈ others := by
    have belongs : operation ∈ belonging operations service.name :=
      List.mem_filter.mpr ⟨present, beq_iff_eq.mpr under⟩
    rw [same] at belongs
    exact List.mem_of_mem_filter belongs
  have otherNamed : service.name ∈ other.map (·.name) := by
    rw [second.serviceNames, List.mem_eraseDups]
    exact List.mem_map.mpr ⟨operation, inOthers, under⟩
  obtain ⟨found, foundMember, sameName⟩ := List.mem_map.mp otherNamed
  have firstMade := first.services service member
  have secondMade := second.services found foundMember
  rw [sameName, ← same] at secondMade
  exact firstMade.unique secondMade sameName.symm ▸ foundMember

/-- Operations of other services do not matter for a service: two registries have the same services, up
to their order, when the operations of every service are the same and in the same order. -/
theorem ofOperations_perm
    (same : ∀ serviceName, belonging operations serviceName = belonging others serviceName) :
    (ofOperations operations).Perm (ofOperations others) := by
  have first := groups_ofOperations operations
  have second := groups_ofOperations others
  have distinct : (ofOperations operations).Nodup := List.Nodup.of_map (·.name) first.distinct
  have othersDistinct : (ofOperations others).Nodup := List.Nodup.of_map (·.name) second.distinct
  refine (List.perm_ext_iff_of_nodup distinct othersDistinct).mpr ?_
  intro service
  exact ⟨first.mem_of_belonging second same, second.mem_of_belonging first fun name => (same name).symm⟩

/-- Adding operations one after another groups them, and nothing else is a grouping of them. In it a
service imports a model exactly when one of its methods needs the model. -/
theorem ofOperations_grouping (operations : List Operation) :
    (∀ registry, registry = ofOperations operations ↔ Groups operations registry) ∧
      ∀ service ∈ ofOperations operations, ∀ name,
        name ∈ service.imports ↔ ∃ method ∈ service.methods, name ∈ method.modelNames := by
  have groups := groups_ofOperations operations
  constructor
  · intro registry
    constructor
    · intro same
      exact same ▸ groups
    · intro other
      exact other.unique groups
  · intro service member name
    rw [(groups.services service member).imports, List.mem_eraseDups, List.mem_flatMap]

end Registry

end TypedClient
