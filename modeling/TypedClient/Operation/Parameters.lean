import TypedClient.Operation.Basic
import TypedClient.Value.Equality

/-!
Parameters of an operation. A path declares parameters for all its operations, and an operation
declares its own: one with the name and the place of an earlier one takes that one's position. Only
parameters in the path and in the query string are supported; of the others a label is kept.
-/

namespace TypedClient

namespace ParameterPlace

/-- The place that a word of the document names. -/
def ofText? : String → Option ParameterPlace
  | "path" => some .path
  | "query" => some .query
  | _ => none

/-- The place as part of a name. -/
def suffix : ParameterPlace → String
  | .path => "Path"
  | .query => "Query"

end ParameterPlace

namespace Parameter

/-- Compares the names and the places of two parameter objects. There is no answer if comparing them
never ends. -/
def sameKey? (a b : Entries) : Option Bool := do
  if ← Value.same? (Entries.field a "name") (Entries.field b "name") then
    Value.same? (Entries.field a "in") (Entries.field b "in")
  else return false

/-- Puts a parameter object in the position of the first one with its key, or else at the end. -/
def supersede (parameter : Entries) : List Entries → Except CompileError (List Entries)
  | [] => return [parameter]
  | existing :: rest =>
    match sameKey? existing parameter with
    | some true => return parameter :: rest
    | some false => do
      let others ← supersede parameter rest
      return existing :: others
    | none => .error .endless

/-- Puts parameter objects one after another in their positions. -/
def supersedeAll (merged : List Entries) : List Entries → Except CompileError (List Entries)
  | [] => return merged
  | parameter :: rest => do
    let further ← supersede parameter merged
    supersedeAll further rest

/-- The parameter objects of a path and of one of its operations; what is no mapping is ignored. -/
def merge (pathLevel operationLevel : List Value) : Except CompileError (List Entries) :=
  supersedeAll (pathLevel.filterMap Value.entries?) (operationLevel.filterMap Value.entries?)

/-- The schema of a parameter object, which counts only when it is a mapping. -/
def schema? (entries : Entries) : Option Value :=
  ((Entries.field entries "schema").entries?).map .mapping

/-- The type expression of a parameter object; without a schema it is a text. -/
def declaredType (entries : Entries) : Except CompileError TypeExpr :=
  ((schema? entries).map TypeExpr.ofSchema).getD (.ok .string)

def declaredName (entries : Entries) : String :=
  ((Entries.get? entries "name").map Value.toText).getD ""

/-- A parameter object read: a parameter, or the label of one that is carried elsewhere. -/
def read (entries : Entries) : Except CompileError (Parameter ⊕ String) := do
  ensureWritable [Entries.field entries "name"]
  let name := declaredName entries
  let place := Entries.field entries "in"
  if place.isComposite then .error .compositePlace
  else
    match place.text?.bind ParameterPlace.ofText? with
    | some found => do
      let type ← declaredType entries
      return .inl ⟨name, (Entries.field entries "required").isTruthy, found, type⟩
    | none => do
      ensureWritable [place]
      return .inr (name ++ " (in: " ++ place.toText ++ ")")

/-- The parameters among parameter objects and the labels of the others, each in order. -/
def readAll : List Entries → Except CompileError (List Parameter × List String)
  | [] => .ok ([], [])
  | entries :: rest => do
    let first ← read entries
    let (parameters, labels) ← readAll rest
    match first with
    | .inl parameter => return (parameter :: parameters, labels)
    | .inr label => return (parameters, label :: labels)

end Parameter

end TypedClient
