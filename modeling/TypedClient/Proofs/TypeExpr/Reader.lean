import TypedClient.Proofs.Name.Literal
import TypedClient.TypeExpr.Render

/-!
Type expressions read from their source text. Indentation is skipped and every part goes on as long
as it can. What a text cannot show is read in one way: a type that nothing is known of is a malformed
reference, and of required names only those of properties are there.
-/

namespace TypedClient

/-- A property that was read: its name, its type, and whether it must be present. -/
structure ReadField where
  name : String
  type : TypeExpr
  isRequired : Bool

namespace TypeExpr

def ofFields (fields : List ReadField) : TypeExpr :=
  .record (fields.map fun field => (field.name, field.type))
    ((fields.filter (·.isRequired)).map (·.name))

/-- Any character may stand for itself in a literal. -/
def anyChar (_ : Char) : Bool := true

/-- An array for every pair of brackets behind the text of an element. -/
def readArrays (item : TypeExpr) : List Char → TypeExpr × List Char
  | '[' :: ']' :: rest => readArrays (.array item) rest
  | rest => (item, rest)

/-- The words that stand for types other than models. -/
def typeWords : List String := ["string", "number", "boolean", "unknown"]

/-- The type that a word stands for. -/
def ofWord : String → TypeExpr
  | "string" => .string
  | "number" => .number
  | "boolean" => .boolean
  | "unknown" => .ref ""
  | name => .ref name

/-- Reads a word, which is a mapping with any entries when its arguments follow. -/
def readWord (chars : List Char) : TypeExpr × List Char :=
  let rest := chars.dropWhile Identifier.isPart
  match rest.dropPrefix? "<string, unknown>".toList with
  | some after => (.openRecord, after)
  | none => (ofWord (String.ofList (chars.takeWhile Identifier.isPart)), rest)

def readMembers : Nat → List Char → Option (List String × List Char)
  | 0, _ => none
  | fuel + 1, chars => do
    let opened ← chars.dropPrefix? ['|', ' ', '\x27']
    let (value, rest) ← Literal.readString anyChar opened
    match rest with
    | ' ' :: more => do
      let (values, after) ← readMembers fuel more
      return (String.ofList value :: values, after)
    | after => return ([String.ofList value], after)

/-- Reads the name of a property: a literal, or an identifier that one line feed may follow. -/
def readKey : List Char → Option (String × List Char)
  | '\x27' :: rest => do
    let (name, after) ← Literal.readString anyChar rest
    return (String.ofList name, after)
  | chars =>
    let word := chars.takeWhile Identifier.isPart
    match chars.dropWhile Identifier.isPart with
    | '\n' :: after => some (String.ofList (word ++ ['\n']), after)
    | after => some (String.ofList word, after)

/-- Reads whether a property must be present, and the colon. -/
def readMarker : List Char → Option (Bool × List Char)
  | '?' :: ':' :: ' ' :: rest => some (false, rest)
  | ':' :: ' ' :: rest => some (true, rest)
  | _ => none

/-- White space between the properties of a record. -/
def isLayout (c : Char) : Bool :=
  c == '\n' || c == ' '

mutual

/-- Reads a type expression with the brackets behind it. -/
def readType : Nat → List Char → Option (TypeExpr × List Char)
  | 0, _ => none
  | fuel + 1, '\x7b' :: rest => do
    let (fields, after) ← readFields fuel rest
    return readArrays (ofFields fields) after
  | fuel + 1, '|' :: rest => do
    let (values, after) ← readMembers fuel ('|' :: rest)
    return readArrays (.enumeration values) after
  | fuel + 1, '(' :: rest => do
    let (values, after) ← readMembers fuel rest
    return readArrays (.enumeration values) (← after.dropPrefix? [')'])
  | _ + 1, chars =>
    let (type, after) := readWord chars
    some (readArrays type after)

/-- Reads the properties of a record and its closing brace. -/
def readFields : Nat → List Char → Option (List ReadField × List Char)
  | 0, _ => none
  | fuel + 1, chars =>
    match chars.dropWhile isLayout with
    | '\x7d' :: rest => some ([], rest)
    | keyed => do
      let (name, marked) ← readKey keyed
      let (isRequired, typed) ← readMarker marked
      let (type, closed) ← readType fuel typed
      let (fields, after) ← readFields fuel (← closed.dropPrefix? [';'])
      return (⟨name, type, isRequired⟩ :: fields, after)

end

mutual

/-- The type expression as its text shows it: what nothing is known of is a malformed reference, and
only properties are required. -/
def canonical : TypeExpr → TypeExpr
  | .ref name => .ref name
  | .openRecord => .openRecord
  | .record properties required =>
    .record (canonicalIn properties) ((properties.map (·.1)).filter required.contains)
  | .array item => .array item.canonical
  | .enumeration values => .enumeration values
  | .string => .string
  | .number => .number
  | .boolean => .boolean
  | .unknown _ => .ref ""

/-- The properties of a record with the types that their texts show. -/
def canonicalIn : List (String × TypeExpr) → List (String × TypeExpr)
  | [] => []
  | (name, type) :: rest => (name, type.canonical) :: canonicalIn rest

end

mutual

/-- Every reference in a type expression is malformed or an identifier that names no other type, and
every enumeration has a value. -/
def Legible : TypeExpr → Prop
  | .ref name => name = "" ∨ Identifier.isIdentifier name.toList = true ∧ name ∉ typeWords
  | .array item => item.Legible
  | .record properties _ => LegibleIn properties
  | .enumeration values => values ≠ []
  | _ => True

def LegibleIn : List (String × TypeExpr) → Prop
  | [] => True
  | (_, type) :: rest => type.Legible ∧ LegibleIn rest

end

end TypeExpr

end TypedClient
