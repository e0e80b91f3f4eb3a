import TypedClient.Text.Character
import TypedClient.Text.Charset.Basic
import TypedClient.Text.Pieces
import TypedClient.Web.Percent

/-!
The charset that a content type declares. Fields of a content type are separated by semicolons
outside of quotes. A parameter may be written in several numbered parts, and parts may be escaped
and start with the charset that they are escaped in.
-/

namespace TypedClient.ContentType

/-- The fields between the semicolons outside of quotes. A quote behind a backslash is none. -/
def fieldsFrom (isQuoted : Bool) (previous : Char) : List Char → List (List Char)
  | [] => [[]]
  | c :: rest =>
    if c == ';' && !isQuoted then [] :: fieldsFrom false ';' rest
    else
      let isQuote := c == '"' && previous != '\\'
      match fieldsFrom (isQuoted != isQuote) c rest with
      | [] => [[c]]
      | field :: fields => (c :: field) :: fields

/-- The name and the value of a field. -/
def parameterOf (field : List Char) : List Char × List Char :=
  let trim := Text.trimBy Text.isBlank
  match field.dropWhile (· != '=') with
  | [] => (trim field, [])
  | _ :: value => ((trim (field.takeWhile (· != '='))).map Char.toLower, trim value)

/-- Takes the backslash away in front of a character. -/
def unescape (c : Char) : List Char → List Char
  | '\\' :: d :: rest => if c == d then c :: unescape c rest else '\\' :: unescape c (d :: rest)
  | d :: rest => d :: unescape c rest
  | [] => []

/-- A value without the quotes or angle brackets around it. -/
def unquote (value : List Char) : List Char :=
  match value with
  | '"' :: rest =>
    if rest.getLast? == some '"' then unescape '"' (unescape '\\' rest.dropLast) else value
  | '<' :: rest => if rest.getLast? == some '>' then rest.dropLast else value
  | _ => value

def charsetName : List Char :=
  "charset".toList

/-- A part of the parameter: its number, and whether it is escaped. -/
structure Part where
  number : Nat
  isEscaped : Bool
  value : List Char

/-- The part that a parameter is, if it is one. A single part need not have a number. -/
def part? (parameter : List Char × List Char) : Option Part :=
  if (charsetName ++ ['*']).isPrefixOf parameter.1 then
    let rest := parameter.1.drop (charsetName.length + 1)
    let digits := rest.takeWhile Char.isDigit
    let behind := rest.dropWhile Char.isDigit
    let number := digits.foldl (fun number c => 10 * number + (c.toNat - '0'.toNat)) 0
    if behind.isEmpty || (behind == ['*'] && !digits.isEmpty) then
      some ⟨number, parameter.1.getLast? == some '*', unquote parameter.2⟩
    else none
  else none

/-- The value of a part. Escaped octets stand for the characters with their numbers. -/
def Part.text (part : Part) : List Char :=
  if part.isEscaped then (Percent.decode part.value).map fun octet => Char.ofNat octet.toNat
  else part.value

/-- A value that is escaped in a charset, as text. What is no text in it is left as it is, and so is
a value in a charset that is not known. -/
def decodedIn (name value : List Char) : List Char :=
  let octets := value.map fun c => UInt8.ofNat c.toNat
  match Text.Charset.ofName? (String.ofList name) with
  | some charset =>
    match charset.decode octets with
    | .ok text => if text.contains Text.replacement then value else text
    | .error _ => value
  | none => value

/-- The value of parts put together. Escaped parts may start with a charset and a language, each
with an apostrophe behind it. -/
def joinedValue (parts : List Part) : List Char :=
  let value := (parts.mergeSort fun a b => a.number ≤ b.number).flatMap Part.text
  if parts.any (·.isEscaped) then
    match Text.piecesBy (· == '\x27') value with
    | name :: _ :: first :: others =>
      let text := unquote (List.intercalate ['\x27'] (first :: others))
      decodedIn (if name.isEmpty then "us-ascii".toList else name) text
    | _ => decodedIn "us-ascii".toList value
  else value

/-- The value of the parameter. The first field is the type itself; it is not one of several parts.
A parameter in one piece comes first. -/
def charsetValue? (contentType : String) : Option (List Char) :=
  let parameters := (fieldsFrom false ';' contentType.toList).map parameterOf
  match parameters.find? (·.1 == charsetName) with
  | some (_, value) => some (unquote value)
  | none =>
    let parts := (parameters.drop 1).filterMap part?
    if parts.isEmpty then none else some (joinedValue parts)

def charset? (contentType : String) : Option Text.Charset := do
  let value ← charsetValue? contentType
  if value.all fun c => c.toNat < 0x80 then
    Text.Charset.ofName? (String.ofList value)
  else none

end TypedClient.ContentType
