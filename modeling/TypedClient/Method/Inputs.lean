import TypedClient.Name.Identifier
import TypedClient.Operation.Parameters

/-!
The inputs of a method. A method takes one record with a key for the body and a key for every
parameter. The body keeps its name; a parameter whose name is taken by an earlier input gets its
place appended, and then a number if that is taken too.
-/

namespace TypedClient.Operation

/-- The key of a parameter beside the keys of the earlier inputs. -/
def parameterKey (taken : List String) (parameter : Parameter) : String :=
  if taken.contains parameter.name then
    freshName (parameter.name ++ parameter.place.suffix) taken
  else parameter.name

def parameterKeys (taken : List String) : List Parameter → List String
  | [] => []
  | parameter :: rest =>
    let key := parameterKey taken parameter
    key :: parameterKeys (key :: taken) rest

def bodyKey (operation : Operation) : Option String :=
  operation.body.map (·.argumentName)

def inputKeys (operation : Operation) : List String :=
  parameterKeys operation.bodyKey.toList operation.parameters

def keyedParameters (operation : Operation) : List (Parameter × String) :=
  operation.parameters.zip operation.inputKeys

/-- The declared names and the keys of the parameters whose key is not their name. -/
def renamedInputs (operation : Operation) : List (String × String) :=
  operation.keyedParameters.filterMap fun (parameter, key) =>
    if parameter.name = key then none else some (parameter.name, key)

end TypedClient.Operation
