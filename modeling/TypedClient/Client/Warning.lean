import TypedClient.Operation.Extract

namespace TypedClient

/-- A warning. An operation is shown by its label, the method in upper case before the path. -/
inductive Warning where
  | noOperations (path : String)
  | sharedName (operationId : Value) (label : String)
  | ignoredParameter (parameter label : String)
  | renamedInput (declared label key : String)

namespace Warning

def message : Warning → String
  | noOperations path => "No operations found for " ++ path ++ "; skipping"
  | sharedName operationId label =>
    "operationId " ++ operationId.quoted ++ " of " ++ label ++
      " does not split into two segments; using " ++ Operation.fallbackServiceName ++ "." ++
      Operation.fallbackMethodName
  | ignoredParameter parameter label =>
    "Ignoring parameter " ++ parameter ++ " of " ++ label ++
      "; only path and query parameters are supported"
  | renamedInput declared label key =>
    "Input " ++ Text.quoted declared ++ " of " ++ label ++
      " clashes with another input; passed as props[" ++ Text.quoted key ++ "]"

end Warning

end TypedClient
