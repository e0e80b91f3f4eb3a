import TypedClient.Source.Expression

/-!
Top-level statements of the generated sources and the files made of them. Statements are separated
by an empty line, except that an import follows an import on the next line. A file ends in exactly
one line feed.
-/

namespace TypedClient

structure ImportDecl where
  module : String
  names : List String
  typeOnly : Bool
  deriving DecidableEq, Repr

/-- A parameter of a function or a constructor, with an access modifier if it has one. -/
structure ParameterDecl where
  name : String
  typeText : String
  scope : Option String
  deriving DecidableEq, Repr

/-- A method of a class; an empty statement is an empty line. -/
structure MethodDecl where
  name : String
  parameters : List ParameterDecl
  statements : List String
  deriving DecidableEq, Repr

/-- A class whose constructor only declares its parameters. -/
structure ClassDecl where
  name : String
  constructorParameters : List ParameterDecl
  methods : List MethodDecl
  isExported : Bool
  deriving DecidableEq, Repr

/-- A top-level statement. -/
inductive Statement where
  | importNames (declaration : ImportDecl)
  | typeAlias (name typeText : String) (isExported : Bool)
  | verbatim (text : String)
  | classOf (declaration : ClassDecl)
  deriving DecidableEq, Repr

/-- A source file, named relative to the output directory. -/
structure SourceFile where
  relativePath : String
  header : List String
  statements : List Statement
  deriving DecidableEq, Repr

/-- The word in front of an exported declaration. -/
def exportMark (isExported : Bool) : String :=
  if isExported then "export " else ""

namespace ImportDecl

def render (declaration : ImportDecl) : String :=
  let keyword := if declaration.typeOnly then "import type" else "import"
  keyword ++ " \x7b " ++ Text.commaSeparated declaration.names ++ " \x7d from " ++
    Literal.string declaration.module ++ ";"

end ImportDecl

namespace ParameterDecl

def render (parameter : ParameterDecl) : String :=
  let scope := parameter.scope.getD ""
  let modifier := if scope.isEmpty then "" else scope ++ " "
  modifier ++ parameter.name ++ ": " ++ parameter.typeText

end ParameterDecl

namespace MethodDecl

/-- The method on lines of its own, indented for its place in a class. -/
def render (method : MethodDecl) : String :=
  let parameters := Text.commaSeparated (method.parameters.map (·.render))
  let opening := indentation 1 ++ method.name ++ "(" ++ parameters ++ ") \x7b"
  Text.unlines (opening :: method.statements.map (indentLines 2) ++ [indentation 1 ++ "\x7d"])

end MethodDecl

namespace ClassDecl

/-- The constructor, which stands only when it declares parameters, and the methods. -/
def members (declaration : ClassDecl) : List String :=
  let parameters := declaration.constructorParameters
  let construction :=
    if parameters.isEmpty then []
    else
      [indentation 1 ++ "constructor(" ++ Text.commaSeparated (parameters.map (·.render)) ++
        ") \x7b\x7d"]
  construction ++ declaration.methods.map (·.render)

/-- The class with its members separated by empty lines. -/
def render (declaration : ClassDecl) : String :=
  let opening := exportMark declaration.isExported ++ "class " ++ declaration.name ++ " \x7b"
  let body :=
    match declaration.members with
    | [] => []
    | members => ["\n\n".intercalate members]
  Text.unlines (opening :: body ++ ["\x7d"])

end ClassDecl

namespace Statement

def render : Statement → String
  | .importNames declaration => declaration.render
  | .typeAlias name typeText isExported =>
    exportMark isExported ++ "type " ++ name ++ " = " ++ typeText ++ ";"
  | .verbatim text => text
  | .classOf declaration => declaration.render

def isImport : Statement → Bool
  | .importNames _ => true
  | _ => false

def separator (before after : Statement) : String :=
  if before.isImport && after.isImport then "\n" else "\n\n"

def renderAll : List Statement → String
  | [] => ""
  | [statement] => statement.render
  | statement :: next :: rest =>
    statement.render ++ separator statement next ++ renderAll (next :: rest)

end Statement

namespace SourceFile

/-- The source text of a file. An empty header leaves no trace. -/
def render (file : SourceFile) : String :=
  match file.header, file.statements with
  | [], statements => Statement.renderAll statements ++ "\n"
  | header, [] => Text.unlines header ++ "\n"
  | header, statements => Text.unlines header ++ "\n\n" ++ Statement.renderAll statements ++ "\n"

end SourceFile

end TypedClient
