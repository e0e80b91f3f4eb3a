import TypedClient.Text.Pieces
import TypedClient.Value.Text

/-!
Type expressions of the generated sources and how a schema of the document determines one. A schema
without a declared type is a reference, and references are never followed, so schemas that refer to each
other are no obstacle. A schema that stands inside itself determines none.
-/

namespace TypedClient

/-- Why a document does not determine a client. -/
inductive CompileError where
  /-- The document has no mapping of paths. -/
  | noPaths
  /-- A path item has keys that are no operations of the supported kinds and no metadata. -/
  | unknownMethods (path : String) (keys : List String)
  /-- The place of a parameter is a list or a mapping. -/
  | compositePlace
  /-- An integer that enters the client has too many digits to be written. -/
  | unwritable
  /-- A collection that holds itself is followed without end. -/
  | endless
  deriving DecidableEq, Repr

/-- What is said about a document that does not determine a client. -/
def CompileError.message : CompileError → String
  | noPaths => "OpenAPI document missing 'paths' object"
  | unknownMethods path keys =>
    "Unknown operation(s) found for " ++ path ++ ": " ++ Text.commaSeparated keys
  | compositePlace => "A parameter is placed in a list or a mapping"
  | unwritable => "An integer has too many digits to be written"
  | endless => "A value that holds itself is followed without end"

/-- Refuses values that have no text. -/
def ensureWritable (values : List Value) : Except CompileError Unit :=
  if values.all Value.isWritable then .ok () else .error .unwritable

/-- A type expression. -/
inductive TypeExpr where
  /-- The model with this name; the empty name stands for a malformed reference. -/
  | ref (name : String)
  /-- A mapping with any entries. -/
  | openRecord
  /-- A record with properties in order, and the names that are required. -/
  | record (properties : List (String × TypeExpr)) (required : List String)
  | array (item : TypeExpr)
  /-- One of some texts. -/
  | enumeration (values : List String)
  | string
  | number
  | boolean
  /-- A declared type that has no counterpart. -/
  | unknown (declared : String)
  deriving Repr

namespace TypeExpr

/-- The last segment of a reference path; anything but a text has none. -/
def referenceName : Value → String
  | .text path => (Text.pieces '/' path).getLast?.getD ""
  | _ => ""

/-- The type expressions of declared types that stand for themselves. -/
def primitive? : String → Option TypeExpr
  | "string" | "date" => some .string
  | "number" | "integer" => some .number
  | "boolean" => some .boolean
  | _ => none

/-- The type expression of a declared type that has no structure. -/
def ofDeclared (declared : Value) : TypeExpr :=
  ((declared.text?.bind primitive?).getD (.unknown declared.toText))

/-- The values to which a declared text is restricted. -/
def enumValues (entries : Entries) : List Value :=
  (Entries.field entries "enum").items?.getD []

/-- The type expression of a declared text, which a nonempty list of values restricts. -/
def ofTextSchema (entries : Entries) : TypeExpr :=
  match enumValues entries with
  | [] => .string
  | values => .enumeration (values.map Value.toText)

def requiredNames (required : Value) : List String :=
  (required.items?.getD []).filterMap Value.text?

/-- The type expressions of the schemas of a mapping, under the texts of their keys. -/
def namedTypes (inner : Value → Except CompileError TypeExpr) :
    Entries → Except CompileError (List (String × TypeExpr))
  | [] => return []
  | (key, schema) :: rest => do
    ensureWritable [key]
    let type ← inner schema
    let others ← namedTypes inner rest
    return (key.toText, type) :: others

/-- The type expression of a schema, with those of the schemas inside it. -/
def ofSchemaBy (inner : Value → Except CompileError TypeExpr) (schema : Value) :
    Except CompileError TypeExpr :=
  match schema.entries? with
  | none => return .ref ""
  | some entries =>
    match Entries.field entries "type" with
    | .null => return .ref (referenceName (Entries.field entries "$ref"))
    | .text "object" =>
      match (Entries.field entries "properties").entries? with
      | none => return .openRecord
      | some properties => do
        let types ← namedTypes inner properties
        return .record types (requiredNames (Entries.field entries "required"))
    | .text "array" => do
      let item ← inner (Entries.field entries "items")
      return .array item
    | .text "string" => do
      ensureWritable (enumValues entries)
      return ofTextSchema entries
    | declared => do
      ensureWritable [declared]
      return ofDeclared declared

/-- The type expression of a schema with at most so many levels of schemas. -/
def ofSchemaWithin : Nat → Value → Except CompileError TypeExpr
  | 0, _ => .error .endless
  | levels + 1, schema => ofSchemaBy (ofSchemaWithin levels) schema

/-- The type expression of a schema. A schema that goes deeper than it has parts, and one more level for
a schema that is missing, stands inside itself. -/
def ofSchema (schema : Value) : Except CompileError TypeExpr :=
  ofSchemaWithin (schema.parts.length + 1) schema

/-! ### References -/

mutual

/-- The names of all references in a type expression, in order and with repetitions. -/
def references : TypeExpr → List String
  | .ref name => [name]
  | .array item => item.references
  | .record properties _ => referencesIn properties
  | _ => []

def referencesIn : List (String × TypeExpr) → List String
  | [] => []
  | (_, type) :: rest => type.references ++ referencesIn rest

end

/-- The model names that a type expression needs, in order of first occurrence. -/
def modelNames (type : TypeExpr) : List String :=
  (type.references.filter fun name => !name.isEmpty).eraseDups

end TypeExpr

end TypedClient
