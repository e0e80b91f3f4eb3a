import TypedClient.Source.Expression
import TypedClient.TypeExpr.Basic

/-!
The source text of type expressions. A record stands on several lines, one for each property, and is
indented by steps of four spaces; all else stands on one line.
-/

namespace TypedClient

/-- A property of a record type: its name, the text of its type, and whether it must be present. -/
structure RecordField where
  name : String
  typeText : String
  isRequired : Bool

def RecordField.render (field : RecordField) (indent : Int) : String :=
  let marker := if field.isRequired then "" else "?"
  indentation indent ++ Literal.propertyKey field.name ++ marker ++ ": " ++ field.typeText ++ ";"

/-- A record type whose closing brace is indented by some steps and whose properties by one more. -/
def renderRecord (indent : Int) (fields : List RecordField) : String :=
  Text.unlines
    ("\x7b" :: fields.map (·.render (indent + 1)) ++ [indentation indent ++ "\x7d"])

/-- A union with a bar in front of every member, so that one member is a union too. -/
def renderUnion (members : List String) : String :=
  " ".intercalate (members.map ("| " ++ ·))

namespace TypeExpr

def unknownText : String := "unknown"

/-- The text of an array of elements of a type; a union is put into parentheses. -/
def renderArray (item : TypeExpr) (itemText : String) : String :=
  match item with
  | .enumeration _ => "(" ++ itemText ++ ")[]"
  | _ => itemText ++ "[]"

mutual

/-- The source text of a type expression that begins at some steps of indentation. -/
def render (indent : Int) : TypeExpr → String
  | .ref name => if name.isEmpty then unknownText else name
  | .openRecord => "Record<string, unknown>"
  | .record [] _ => "\x7b\x7d"
  | .record (property :: rest) required =>
    renderRecord indent (fieldsOf (indent + 1) required (property :: rest))
  | .array item => renderArray item (item.render indent)
  | .enumeration values => renderUnion (values.map Literal.string)
  | .string => "string"
  | .number => "number"
  | .boolean => "boolean"
  | .unknown _ => unknownText

/-- The properties of a record with the texts of their types. -/
def fieldsOf (indent : Int) (required : List String) :
    List (String × TypeExpr) → List RecordField
  | [] => []
  | (name, type) :: rest =>
    ⟨name, type.render indent, required.contains name⟩ :: fieldsOf indent required rest

end

end TypeExpr

end TypedClient
