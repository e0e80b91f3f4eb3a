import TypedClient.Name.Identifier

/-!
Texts as literals of the generated sources. A string literal stands between apostrophes, with a
backslash before each backslash and each apostrophe of the text. A property name that reads as an
identifier is written bare, any other as a string literal.
-/

namespace TypedClient.Literal

def escape (c : Char) : List Char :=
  if c = '\\' ∨ c = '\x27' then ['\\', c] else [c]

def string (s : String) : String :=
  String.ofList ('\x27' :: s.toList.flatMap escape ++ ['\x27'])

/-- The template literal with this source between its backticks. -/
def template (source : String) : String :=
  "\x60" ++ source ++ "\x60"

/-- A property name that needs no quotes: an identifier, which one line feed may follow. -/
def isBareKey (name : String) : Bool :=
  let chars := name.toList
  Identifier.isIdentifier chars ||
    (chars.getLast? == some '\n' && Identifier.isIdentifier chars.dropLast)

/-- A property name as it is written in a record type or an object literal. -/
def propertyKey (name : String) : String :=
  if isBareKey name then name else string name

end TypedClient.Literal
