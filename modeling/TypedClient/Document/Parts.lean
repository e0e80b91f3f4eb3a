import TypedClient.Operation.Basic
import TypedClient.Value.Text

namespace TypedClient.Document

/-- An entry of the paths as a path item under its path: a text with a mapping. -/
def pathEntry? (entry : Value × Value) : Option (String × Entries) :=
  match entry.1.text?, entry.2.entries? with
  | some path, some item => some (path, item)
  | _, _ => none

/-- The path items of a document under their paths, in order; other entries are ignored. -/
def paths (document : Entries) : Except CompileError (List (String × Entries)) :=
  match (Entries.field document "paths").entries? with
  | some entries => .ok (entries.filterMap pathEntry?)
  | none => .error .noPaths

/-- The entries of the component schemas as they are written. -/
def schemaEntries (document : Entries) : Entries :=
  let components := ((Entries.field document "components").entries?).getD []
  ((Entries.field components "schemas").entries?).getD []

/-- The component schemas under the texts of their keys; of keys with one text the last schema
counts. -/
def componentSchemas (document : Entries) : List (String × Value) :=
  collapse (· == ·) ((schemaEntries document).map fun (key, schema) => (key.toText, schema))

end TypedClient.Document
