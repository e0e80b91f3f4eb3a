import TypedClient.Method.Inputs
import TypedClient.Name.Literal

/-!
Local variables of a method for its path parameters. Each name is bound once, from the key of the
first path parameter with that name, to an identifier derived from the key that shadows no other
local of the method.
-/

namespace TypedClient

structure PathLocal where
  parameterName : String
  /-- The key of the parameter in the input record. -/
  key : String
  localName : String
  deriving DecidableEq, Repr

namespace PathLocal

/-- The variables that every method declares. -/
def reserved : List String := ["baseUrl", "adapter", "props"]

/-- The variable for a key beside the variables in use. -/
def variableFor (used : List String) (key : String) : String :=
  let derived := Identifier.derive key
  if used.contains derived then freshName (derived ++ "Param") used else derived

/-- The locals for parameters, given the variables in use and the names that are bound. -/
def bindAll (used bound : List String) : List (Parameter × String) → List PathLocal
  | [] => []
  | (parameter, key) :: rest =>
    if parameter.place = .path ∧ parameter.name ∉ bound then
      let localName := variableFor used key
      ⟨parameter.name, key, localName⟩ ::
        bindAll (localName :: used) (parameter.name :: bound) rest
    else bindAll used bound rest

/-- How a local is taken from the input record: a key that is the variable itself stands alone. -/
def binding (pathLocal : PathLocal) : String :=
  if pathLocal.key = pathLocal.localName then pathLocal.key
  else Literal.propertyKey pathLocal.key ++ ": " ++ pathLocal.localName

end PathLocal

def Operation.pathLocals (operation : Operation) : List PathLocal :=
  PathLocal.bindAll PathLocal.reserved [] operation.keyedParameters

end TypedClient
