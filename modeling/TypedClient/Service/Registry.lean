import TypedClient.Operation.Basic
import TypedClient.TypeExpr.Basic

/-!
Services and the registry that groups operations into them. Services stand in order of their first
operation, and so do the methods of a service; a later operation with the name of an earlier one of
its service takes its position. A service imports the models that its current methods need.
-/

namespace TypedClient

/-- A service: its methods in order, under distinct names, and the models that it imports. -/
structure Service where
  name : String
  methods : List Operation
  imports : List String

namespace Operation

/-- The type expressions of a body, a response or a parameter that are needed by a method, in the
order in which they count for its imports. -/
def importedTypes (operation : Operation) : List TypeExpr :=
  (operation.response.map (·.type)).toList ++ (operation.body.map (·.type)).toList ++
    operation.parameters.map (·.type)

/-- The models that the inputs and the response of an operation need, in order of first
occurrence; the model that the body refers to comes first. -/
def modelNames (operation : Operation) : List String :=
  let bodyModel := (operation.body.bind (·.importName)).toList.filter fun name => !name.isEmpty
  (bodyModel ++ operation.importedTypes.flatMap (·.modelNames)).eraseDups

end Operation

namespace Service

/-- Puts an operation into the position of the one with its name, or at the end. -/
def putMethod (operation : Operation) : List Operation → List Operation
  | [] => [operation]
  | existing :: rest =>
    if existing.methodName = operation.methodName then operation :: rest
    else existing :: putMethod operation rest

/-- The models that methods need, in order of first occurrence. -/
def importsOf (methods : List Operation) : List String :=
  (methods.flatMap (·.modelNames)).eraseDups

/-- Adds an operation and finds the imports anew. -/
def register (service : Service) (operation : Operation) : Service :=
  let methods := putMethod operation service.methods
  { service with methods, imports := importsOf methods }

def empty (name : String) : Service :=
  ⟨name, [], []⟩

end Service

/-- The services of a client in order, under distinct names. -/
abbrev Registry := List Service

namespace Registry

/-- Adds an operation to its service, which comes last if it is new. -/
def register (operation : Operation) : Registry → Registry
  | [] => [(Service.empty operation.serviceName).register operation]
  | service :: rest =>
    if service.name = operation.serviceName then service.register operation :: rest
    else service :: register operation rest

def ofOperations (operations : List Operation) : Registry :=
  operations.foldl (fun registry operation => register operation registry) []

def find? (registry : Registry) (name : String) : Option Service :=
  List.find? (fun service => service.name == name) registry

end Registry

end TypedClient
