import TypedClient.TypeExpr.Basic

namespace TypedClient

inductive ParameterPlace where
  | path
  | query
  deriving DecidableEq, Repr

/-- A parameter carried in the path or in the query string. -/
structure Parameter where
  name : String
  isRequired : Bool
  place : ParameterPlace
  type : TypeExpr

/-- The JSON content of a request or a response. -/
structure Content where
  argumentName : String
  type : TypeExpr
  isRequired : Bool
  /-- The model that the content refers to, if its schema is a reference. -/
  importName : Option String

/-- All that is needed to write one method of a service. -/
structure Operation where
  rawPath : String
  httpMethod : String
  serviceName : String
  methodName : String
  parameters : List Parameter
  body : Option Content
  response : Option Content
  /-- Labels of the parameters that are carried neither in the path nor in the query string. -/
  skipped : List String

/-- The parameters that are substituted into the path. -/
def Operation.pathParameters (operation : Operation) : List Parameter :=
  operation.parameters.filter (·.place = .path)

/-- The parameters that are sent as the query string. -/
def Operation.queryParameters (operation : Operation) : List Parameter :=
  operation.parameters.filter (·.place = .query)

end TypedClient
