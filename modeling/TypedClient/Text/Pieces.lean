/-!
Texts as pieces between separators. Splitting at a character keeps empty pieces, so joining the
pieces with that character gives the text back.
-/

namespace TypedClient.Text

/-- The pieces between separating characters; there is always at least one. -/
def piecesBy (separates : Char → Bool) : List Char → List (List Char)
  | [] => [[]]
  | c :: rest =>
    if separates c then [] :: piecesBy separates rest
    else
      match piecesBy separates rest with
      | [] => [[c]]
      | piece :: pieces => (c :: piece) :: pieces

/-- The pieces of a text between the occurrences of a separator. -/
def pieces (separator : Char) (s : String) : List String :=
  (piecesBy (· == separator) s.toList).map String.ofList

/-- The lines of a text, which line feeds separate. -/
def lines (s : String) : List String :=
  pieces '\n' s

/-- Lines joined by line feeds. -/
def unlines (lines : List String) : String :=
  "\n".intercalate lines

def commaSeparated (items : List String) : String :=
  ", ".intercalate items

/-- Every kind of line end becomes a line feed. -/
def normaliseLineEnds : List Char → List Char
  | '\r' :: '\n' :: rest => '\n' :: normaliseLineEnds rest
  | '\r' :: rest => '\n' :: normaliseLineEnds rest
  | c :: rest => c :: normaliseLineEnds rest
  | [] => []

def startsWith (start s : String) : Bool :=
  start.toList.isPrefixOf s.toList

def holds (word : List Char) : List Char → Bool
  | [] => word.isEmpty
  | c :: rest => word.isPrefixOf (c :: rest) || holds word rest

def replaceFirst (word replacement : List Char) : List Char → List Char
  | [] => if word.isEmpty then replacement else []
  | c :: rest =>
    if word.isPrefixOf (c :: rest) then replacement ++ (c :: rest).drop word.length
    else c :: replaceFirst word replacement rest

/-- Copies of a text one after another; a count below one gives the empty text. -/
def repeated (s : String) (count : Int) : String :=
  String.join (List.replicate count.toNat s)

end TypedClient.Text
