/-!
Path templates. A raw path consists of characters and of placeholders, which are names in braces;
braces that enclose no name stand for themselves. In a template literal each placeholder becomes a
substitution of a variable.
-/

namespace TypedClient

inductive UrlPiece where
  | char (c : Char)
  | placeholder (name : String)
  deriving DecidableEq, Repr

namespace UrlPiece

/-- The characters of a brace that opened no placeholder, and of what followed it. -/
def unclosed (held : List Char) : List UrlPiece :=
  ('\x7b' :: held.reverse).map char

/-- A closed brace with the characters it encloses, last one first. -/
def closed (held : List Char) : List UrlPiece :=
  match held with
  | [] => [char '\x7b', char '\x7d']
  | _ => [placeholder (String.ofList held.reverse)]

/-- Reads the pieces of a path. Behind an open brace the characters since are held, last one
first. -/
def scan : Option (List Char) → List Char → List UrlPiece
  | none, [] => []
  | some held, [] => unclosed held
  | none, c :: rest => if c = '\x7b' then scan (some []) rest else char c :: scan none rest
  | some held, c :: rest =>
    if c = '\x7b' then unclosed held ++ scan (some []) rest
    else if c = '\x7d' then closed held ++ scan none rest
    else scan (some (c :: held)) rest

def ofPath (path : String) : List UrlPiece :=
  scan none path.toList

/-- A piece in a template literal; a placeholder without a variable of its own is its own
variable. -/
def template (locals : List (String × String)) : UrlPiece → String
  | char c => String.singleton c
  | placeholder name => "$\x7b" ++ (locals.lookup name).getD name ++ "\x7d"

end UrlPiece

/-- The raw path as the inside of a template literal. -/
def urlTemplate (locals : List (String × String)) (path : String) : String :=
  String.join ((UrlPiece.ofPath path).map (UrlPiece.template locals))

end TypedClient
