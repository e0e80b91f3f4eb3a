import TypedClient.Client.Compile

namespace TypedClient

/-- A reference that names no model, with the place where it stands. -/
structure DanglingReference where
  location : String
  name : String
  deriving DecidableEq, Repr

/-- How many references there are and which of them name no model. -/
structure Report where
  checkedCount : Nat
  dangling : List DanglingReference
  deriving DecidableEq, Repr

namespace Report

/-- The type expressions of an operation with their places, the body first. -/
def operationTypes (serviceName : String) (operation : Operation) : List (String × TypeExpr) :=
  let place := serviceName ++ "." ++ operation.methodName
  let body := operation.body.map fun content => (place ++ " body", content.type)
  let response := operation.response.map fun content => (place ++ " response", content.type)
  body.toList ++ response.toList ++ operation.parameters.map fun parameter =>
    (place ++ " parameter " ++ parameter.name, parameter.type)

/-- The type expressions of models and services with their places. -/
def typedPlaces (models : List Model) (services : List Service) : List (String × TypeExpr) :=
  models.map (fun model => ("models." ++ model.name, model.type)) ++
    services.flatMap fun service => service.methods.flatMap (operationTypes service.name)

def referencePlaces (models : List Model) (services : List Service) : List DanglingReference :=
  (typedPlaces models services).flatMap fun (location, type) =>
    type.references.map (DanglingReference.mk location)

/-- Checks the references of models and services against the names of the models. -/
def ofClient (models : List Model) (services : List Service) : Report :=
  let all := referencePlaces models services
  let known := models.map (·.name)
  { checkedCount := all.length
    dangling := all.filter fun reference => !known.contains reference.name }

/-- The number of references that name no model. -/
def danglingCount (report : Report) : Nat :=
  report.dangling.length

/-- The line of a reference that names no model. -/
def line (reference : DanglingReference) : String :=
  let target :=
    if reference.name.isEmpty then "<malformed, rendered as " ++ TypeExpr.unknownText ++ ">"
    else reference.name
  "- " ++ reference.location ++ ": " ++ target

/-- The text of a report: both counts and a line for every dangling reference. -/
def text (report : Report) : String :=
  Text.unlines
    (("Checked references: " ++ toString report.checkedCount) ::
      ("Dangling references: " ++ toString report.danglingCount) :: report.dangling.map line)

end Report

end TypedClient
