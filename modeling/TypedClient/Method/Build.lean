import TypedClient.Method.Locals
import TypedClient.Method.Url
import TypedClient.Source.Statement
import TypedClient.Text.Case
import TypedClient.TypeExpr.Render

/-!
The method that forwards an operation to the adapter. Its inputs come in one record; the path
parameters are bound to locals, and the request is an object of the address, the method, the query
parameters under their declared names, and the body.
-/

namespace TypedClient.Operation

def inputArgument : String := "props"

def absentText : String := "undefined"

/-- The member of the client that holds its configuration. -/
def configurationMember : String := "configuration"

def inputAccess (key : String) : String :=
  inputArgument ++ "[" ++ Literal.string key ++ "]"

def inputFields (operation : Operation) : List RecordField :=
  let body := operation.body.map fun content =>
    ⟨content.argumentName, content.type.render 2, content.isRequired⟩
  body.toList ++ operation.keyedParameters.map fun (parameter, key) =>
    ⟨key, parameter.type.render 2, parameter.isRequired⟩

/-- The type of the input record; a method without inputs has none. -/
def inputType (operation : Operation) : Option String :=
  match operation.inputFields with
  | [] => none
  | fields => some (renderRecord 1 fields)

def queryMembers (operation : Operation) : List (String × String) :=
  (operation.keyedParameters.filter fun (parameter, _) => parameter.place = .query).map
    fun (parameter, key) => (Literal.propertyKey parameter.name, inputAccess key)

def queryText (operation : Operation) : String :=
  match operation.queryMembers with
  | [] => absentText
  | members => Expression.objectLiteral members

def bodyText (operation : Operation) : String :=
  (operation.bodyKey.map inputAccess).getD absentText

def responseText (operation : Operation) : String :=
  match operation.response with
  | some content => content.type.render 0
  | none => "void"

/-- The variables that stand for the placeholders of the path. -/
def pathVariables (operation : Operation) : List (String × String) :=
  operation.pathLocals.map fun bound => (bound.parameterName, bound.localName)

/-- The address of the request below the base address. -/
def addressText (operation : Operation) : String :=
  Literal.template ("$\x7bbaseUrl\x7d" ++ urlTemplate operation.pathVariables operation.rawPath)

def requestText (operation : Operation) : String :=
  Expression.objectLiteral [
    ("url", operation.addressText),
    ("method", Literal.string (Text.upper operation.httpMethod)),
    ("queryParams", operation.queryText),
    ("bodyArgs", operation.bodyText)]

def statements (operation : Operation) : List String :=
  let configuration :=
    Expression.destructure ("this." ++ configurationMember) ["baseUrl", "adapter"]
  let locals :=
    match operation.pathLocals with
    | [] => []
    | bound => [Expression.destructure inputArgument (bound.map (·.binding))]
  let answer := Expression.call "adapter" operation.responseText [operation.requestText]
  configuration :: locals ++ ["", "return " ++ answer ++ ";"]

def method (operation : Operation) : MethodDecl where
  name := operation.methodName
  parameters := (operation.inputType.map fun type => ⟨inputArgument, type, none⟩).toList
  statements := operation.statements

end TypedClient.Operation
