import TypedClient.Operation.Content
import TypedClient.Operation.Parameters

/-!
Operations read from the document. The identifier of an operation names its service and its method,
separated by an underscore; identifiers of any other form share one pair of names.
-/

namespace TypedClient.Operation

/-- The service of operations without a name of their own. -/
def fallbackServiceName : String := "Service"

/-- The method of operations without a name of their own. -/
def fallbackMethodName : String := "unknownName"

/-- The owner and the method that an operation identifier names. -/
def ownNames? (operationId : Value) : Option (String × String) :=
  match operationId.text?.map (Text.pieces '_') with
  | some [owner, method] => some (owner, method)
  | _ => none

/-- The service of an owner: the first `Controller` in its name becomes `Service`. -/
def serviceNameOf (owner : String) : String :=
  String.ofList (Text.replaceFirst "Controller".toList "Service".toList owner.toList)

def namesOf (operationId : Value) : String × String :=
  match ownNames? operationId with
  | some (owner, method) => (serviceNameOf owner, method)
  | none => (fallbackServiceName, fallbackMethodName)

/-- The identifier gives no names, so the shared ones are used. -/
def usesFallback (operationId : Value) : Bool :=
  (ownNames? operationId).isNone

def fieldItems (entries : Entries) (name : String) : List Value :=
  (Entries.field entries name).items?.getD []

/-- The operation that an operation object declares on a path, with the parameters of the path. -/
def extract (rawPath httpMethod : String) (entries : Entries) (pathParameters : List Value) :
    Except CompileError Operation := do
  let (serviceName, methodName) := namesOf (Entries.field entries "operationId")
  let merged ← Parameter.merge pathParameters (fieldItems entries "parameters")
  let (parameters, skipped) ← Parameter.readAll merged
  let body ← Content.ofRequest entries
  let response ← Content.ofResponses entries
  return {
    rawPath, httpMethod, serviceName, methodName, parameters, body, response, skipped }

end TypedClient.Operation
