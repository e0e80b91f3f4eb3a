import TypedClient.Name.Literal

/-!
Expressions of the generated sources. A value that spans several lines keeps its own line structure:
inside an object literal its further lines are indented like its first, and empty lines stay empty.
-/

namespace TypedClient

/-- The spaces of some steps of indentation; a negative number of steps has none. -/
def indentation (steps : Int) : String :=
  Text.repeated "    " steps

/-- The text with every line that is not empty indented by some steps. -/
def indentLines (level : Int) (text : String) : String :=
  Text.unlines
    ((Text.lines text).map fun line => if line.isEmpty then "" else indentation level ++ line)

namespace Expression

/-- A call; a type argument that is not empty stands in angle brackets. -/
def call (callee typeArgument : String) (arguments : List String) : String :=
  let parameter := if typeArgument.isEmpty then "" else "<" ++ typeArgument ++ ">"
  callee ++ parameter ++ "(" ++ Text.commaSeparated arguments ++ ")"

/-- A statement that binds the members of an object. -/
def destructure (target : String) (members : List String) : String :=
  "const \x7b " ++ Text.commaSeparated members ++ " \x7d = " ++ target ++ ";"

def objectMember (key value : String) : String :=
  match Text.lines value with
  | [] => indentation 1 ++ key ++ ": ,"
  | first :: rest =>
    let further := rest.map fun line => if line.isEmpty then "" else indentation 1 ++ line
    Text.unlines ((indentation 1 ++ key ++ ": " ++ first) :: further) ++ ","

/-- An object literal with one member for each key and value. -/
def objectLiteral (members : List (String × String)) : String :=
  Text.unlines ("\x7b" :: members.map (fun member => objectMember member.1 member.2) ++ ["\x7d"])

end Expression

end TypedClient
