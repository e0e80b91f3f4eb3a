import TypedClient.Text.Pieces

/-!
Names of the generated sources. An identifier starts with an ASCII letter, an underscore or a dollar
sign and goes on with these and digits. From any text an identifier can be derived that is no reserved
word; an identifier that is no reserved word derives itself.

A name that is taken gets the least number from 2 on that makes it free. With n taken names one of the
first n numbers is free, so the search is bounded.
-/

namespace TypedClient.Identifier

def isStart (c : Char) : Bool :=
  c.isAlpha || c == '_' || c == '$'

def isPart (c : Char) : Bool :=
  isStart c || c.isDigit

def isIdentifier : List Char → Bool
  | [] => false
  | c :: rest => isStart c && rest.all isPart

/-- The words that cannot name a variable in strict code. -/
def reservedWords : List String := [
  "arguments", "await", "break", "case", "catch", "class", "const", "continue", "debugger",
  "default", "delete", "do", "else", "enum", "eval", "export", "extends", "false", "finally",
  "for", "function", "if", "implements", "import", "in", "instanceof", "interface", "let", "new",
  "null", "package", "private", "protected", "public", "return", "static", "super", "switch",
  "this", "throw", "true", "try", "typeof", "var", "void", "while", "with", "yield"]

/-- The word cannot name a variable. -/
def isReserved (chars : List Char) : Bool :=
  reservedWords.contains (String.ofList chars)

/-- The maximal runs of identifier characters in a text. -/
def wordsOf (chars : List Char) : List (List Char) :=
  (Text.piecesBy (fun c => !isPart c) chars).filter fun word => !word.isEmpty

/-- The word with its first letter in upper case. -/
def capitalise : List Char → List Char
  | [] => []
  | c :: rest => c.toUpper :: rest

/-- A digit may not come first, so an underscore is put in front of it. -/
def guardStart : List Char → List Char
  | [] => []
  | c :: rest => if c.isDigit then '_' :: c :: rest else c :: rest

/-- A reserved word gets an underscore at its end. -/
def guardReserved (chars : List Char) : List Char :=
  if isReserved chars then chars ++ ['_'] else chars

/-- The identifier derived from the characters of a text: its words in one, each but the first
capitalised. -/
def deriveChars (chars : List Char) : List Char :=
  match wordsOf chars with
  | [] => ['_']
  | first :: rest => guardReserved (guardStart (first ++ rest.flatMap capitalise))

/-- The identifier derived from a text. -/
def derive (name : String) : String :=
  String.ofList (deriveChars name.toList)

end TypedClient.Identifier

namespace TypedClient

/-- The number to append to a taken name: the least one from 2 on that gives a free name. -/
def freshNumber (base : String) (taken : List String) : Nat :=
  let candidates := (List.range taken.length).map (· + 2)
  (candidates.find? fun number => !taken.contains (base ++ toString number)).getD
    (taken.length + 2)

/-- The name itself when it is free, and otherwise the name with a number that makes it free. -/
def freshName (base : String) (taken : List String) : String :=
  if taken.contains base then base ++ toString (freshNumber base taken) else base

end TypedClient
