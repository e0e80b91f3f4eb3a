import TypedClient.Operation.Basic
import TypedClient.Text.Case

/-!
JSON content of requests and responses. Content counts only when its schema is a mapping. Content
whose schema is a reference is named after the model.
-/

namespace TypedClient.Content

/-- The media type of supported content. -/
def mediaType : String := "application/json"

/-- The name of an argument whose schema is no reference. -/
def inlineBodyName : String := "bodyArgs"

def responseName : String := "response"

/-- The statuses of a successful response, the preferred one first. -/
def successStatuses : List String := ["200", "201"]

/-- The name with its first letter in lower case. -/
def argumentNameOf (typeName : String) : String :=
  match typeName.toList with
  | [] => ""
  | c :: rest => String.ofList (Text.lowerChar c ++ rest)

def fieldEntries? (entries : Entries) (name : String) : Option Entries :=
  (Entries.field entries name).entries?

/-- The schema of the JSON content that an object declares. -/
def schema? (owner : Entries) : Option Entries := do
  let content ← fieldEntries? owner "content"
  let media ← fieldEntries? content mediaType
  fieldEntries? media "schema"

/-- The model that a schema refers to; a schema with a declared type and a malformed reference refer
to none. -/
def importNameOf (schema : Entries) : Option String :=
  match Entries.field schema "type" with
  | .null =>
    let name := TypeExpr.referenceName (Entries.field schema "$ref")
    if name.isEmpty then none else some name
  | _ => none

/-- The body of a request; it is required unless the document says otherwise. -/
def ofRequest (operation : Entries) : Except CompileError (Option Content) :=
  match fieldEntries? operation "requestBody" with
  | none => return none
  | some request =>
    match schema? request with
    | none => return none
    | some schema => do
      let type ← TypeExpr.ofSchema (.mapping schema)
      return some {
        argumentName := ((importNameOf schema).map argumentNameOf).getD inlineBodyName
        type
        isRequired := ((Entries.get? request "required").map Value.isTruthy).getD true
        importName := importNameOf schema }

/-- The response under a status; of keys with one text the last counts. -/
def responseAt? (responses : Entries) (status : String) : Option Value :=
  (responses.reverse.find? fun entry => entry.1.toText == status).map (·.2)

/-- The successful response among responses, if it is a mapping. -/
def successful? (responses : Entries) : Option Entries :=
  (successStatuses.findSome? (responseAt? responses)).bind Value.entries?

def ofResponses (operation : Entries) : Except CompileError (Option Content) :=
  match fieldEntries? operation "responses" with
  | none => return none
  | some responses => do
    ensureWritable (responses.map (·.1))
    match (successful? responses).bind schema? with
    | none => return none
    | some schema => do
      let type ← TypeExpr.ofSchema (.mapping schema)
      return some {
        argumentName := responseName
        type
        isRequired := true
        importName := importNameOf schema }

end TypedClient.Content
