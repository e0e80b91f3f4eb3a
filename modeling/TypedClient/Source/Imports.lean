import TypedClient.Source.Statement

/-!
Adding names to the imports of a file. A file imports each module once: further names join what is
there of their module, and a module that is new gets a statement behind the last import. No name of
a module stands twice.
-/

namespace TypedClient.ImportDecl

def isFrom (module : String) : Statement → Bool
  | .importNames declaration => declaration.module == module
  | _ => false

/-- Adds names to the first import of their module. -/
def extendFirst (module : String) (names : List String) : List Statement → List Statement
  | [] => []
  | .importNames declaration :: rest =>
    if declaration.module = module then
      .importNames { declaration with names := (declaration.names ++ names).eraseDups } :: rest
    else .importNames declaration :: extendFirst module names rest
  | statement :: rest => statement :: extendFirst module names rest

/-- Puts a statement behind the last import, or in front when there is none. -/
def insertAfterImports (added : Statement) : List Statement → List Statement
  | [] => [added]
  | statement :: rest =>
    if (statement :: rest).any Statement.isImport then statement :: insertAfterImports added rest
    else added :: statement :: rest

def addNames (module : String) (names : List String) (statements : List Statement) :
    List Statement :=
  if statements.any (isFrom module) then extendFirst module names statements
  else if names.isEmpty then statements
  else insertAfterImports (.importNames ⟨module, names.eraseDups, true⟩) statements

end TypedClient.ImportDecl
