import TypedClient.Deflate.Wrapped
import TypedClient.Web.ContentType

namespace TypedClient

structure Response where
  status : Nat
  headers : List (String × String)
  body : List UInt8
  deriving DecidableEq, Repr

namespace Response

/-- The values of a header, whose name is written in any case. -/
def header (response : Response) (name : String) : List String :=
  let lower (s : String) : List Char := s.toList.map Char.toLower
  (response.headers.filter fun field => lower field.1 == lower name).map (·.2)

def isSuccess (response : Response) : Bool :=
  200 ≤ response.status && response.status < 300

/-- Where the answer sends the request on to. -/
def redirect? (response : Response) : Option String :=
  if [301, 302, 303, 307, 308].contains response.status then
    match response.header "location" with
    | [] => none
    | values => some (Text.commaSeparated values)
  else none

def contentType (response : Response) : String :=
  Text.commaSeparated (response.header "content-type")

def isJson (response : Response) : Bool :=
  Text.holds "json".toList response.contentType.toList

def hasAsciiHeaders (response : Response) : Bool :=
  response.headers.all fun (name, value) =>
    (name.toList ++ value.toList).all fun c => c.toNat < 0x80

/-! ### Content -/

/-- Undoes a compression, by its name. One that is not known leaves the octets as they are. -/
def decompress (name : List Char) (octets : List UInt8) : Except Deflate.Stop (List UInt8) :=
  if name == "deflate".toList then Deflate.decodeDeflate octets
  else if name == "gzip".toList then Deflate.decodeGzip octets
  else .ok octets

/-- The names of the compressions, in the order in which they were applied. -/
def compressions (response : Response) : List (List Char) :=
  (response.header "content-encoding").flatMap fun value =>
    (Text.piecesBy (· == ',') value.toList).map fun name =>
      (Text.trimBy Text.isBlank name).map Char.toLower

/-- The octets without their compressions; the last one is undone first. -/
def content (response : Response) : Except Deflate.Stop (List UInt8) :=
  response.compressions.foldr (fun name octets => octets >>= decompress name) (.ok response.body)

def charset (response : Response) : Text.Charset :=
  (ContentType.charset? response.contentType).getD (.utf8 false)

/-- The spelling of the text of octets that the answer contains. No octets are no text in any charset. -/
def textOf (response : Response) (content : List UInt8) : Except Text.CharsetFault String :=
  if content.isEmpty then .ok ""
  else (response.charset.decode content).map String.ofList

end Response

end TypedClient
