import TypedClient.Web.Reference
import TypedClient.Web.Response

namespace TypedClient

/-- What a request meets. -/
inductive Reply where
  | response (response : Response)
  /-- There is no answer, for a reason of the transport. -/
  | failure (reason : String)
  deriving DecidableEq, Repr

/-- The replies at the known addresses. -/
abbrev Web := List (String × Reply)

inductive FetchError where
  | notAddress
  /-- The name of the host stands for no domain name. -/
  | badHost (fault : Domain.LabelFault)
  | unreachable
  | failed (reason : String)
  | badHeaders
  | badContent
  /-- A server answers at an address that names none. -/
  | withoutServer
  | badRedirect
  | refused (status : Nat)
  deriving DecidableEq, Repr

namespace FetchError

/-- What is said about a document that is not fetched. -/
def message : FetchError → String
  | notAddress => "this is no address"
  | badHost fault => fault.message
  | unreachable => "nothing is reached at this address"
  | failed reason => "the connection failed with " ++ reason
  | badHeaders => "the server answered with headers that are not in ASCII"
  | badContent => "the content cannot be decompressed"
  | withoutServer => "the address names no server"
  | badRedirect => "the server sent the request on to what is no address"
  | refused status => "the server answered with status " ++ toString status

/-- The failure is one of the transport or of the server, which is reported; others end the whole
run. -/
def isReported : FetchError → Bool
  | unreachable | failed _ | badContent | badRedirect | refused _ => true
  | notAddress | badHost _ | badHeaders | withoutServer => false

end FetchError

namespace Url

/-- The host of an address, with characters of all scripts. -/
def readableHost (url : Url) : Except FetchError (List Char) :=
  if Domain.asciiMark.isPrefixOf url.host then (Domain.decode url.host).mapError .badHost
  else .ok url.host

/-- The address that is asked for a text. Where no server is named, only a path and a query are
asked for. -/
def asked (url : Url) : Url :=
  if url.isAbsolute then url
  else
    let path := '/' :: (if url.path.isEmpty then [] else url.path.dropWhile (· == '/'))
    ⟨[], [], [], none, path, url.query, none⟩

/-- The address that is asked for a text, if the text is an address. -/
def ofRequest (text : String) : Except FetchError Url := do
  match ofText? text with
  | some url =>
    let url := url.asked
    let _ ← url.readableHost
    return url
  | none => .error .notAddress

/-- An address with changed parts, which have to fit together. -/
def changed (written : Written) : Except FetchError Url :=
  match withParts? written with
  | some url => .ok url
  | none => .error .notAddress

/-- Gives an address with a scheme the host of another one, if it has none. -/
def withHostOf (other url : Url) : Except FetchError Url := do
  if url.scheme.isEmpty then return url
  if !(← url.readableHost).isEmpty then return url
  changed { url.parts with host := Host.written (← other.readableHost) }

/-- The address that a reference means at another one. -/
def resolvedAt (other url : Url) : Except FetchError Url :=
  if url.isAbsolute then .ok url
  else
    match ofText? (String.ofList (Reference.resolve other.text.toList url.text.toList)) with
    | some url => .ok url
    | none => .error .notAddress

/-- Gives an address the fragment of another one, if it has none. -/
def withFragmentOf (other url : Url) : Except FetchError Url :=
  match other.fragment.getD [] with
  | [] => .ok url
  | fragment =>
    if (url.fragment.getD []).isEmpty then
      changed { url.parts with fragment := some (Text.Utf8.decode (Percent.decode fragment)) }
    else .ok url

/-- The address that an answer sends a request on to. -/
def redirected (request : Url) (location : String) : Except FetchError Url := do
  match ofText? location with
  | some url =>
    let url ← withHostOf request url >>= resolvedAt request >>= withFragmentOf request
    let _ ← url.readableHost
    return url
  | none => .error .badRedirect

end Url

/-- The addresses that are asked, in order, and what comes of it: a response, and its content. -/
structure Visit where
  requests : List String
  result : Except FetchError (Response × List UInt8)

namespace Web

/-- The most redirects that are followed. -/
def redirectLimit : Nat := 20

def answer (web : Web) (url : Url) : Except FetchError (Response × List UInt8) := do
  match web.lookup url.text with
  | none => .error .unreachable
  | some (.failure reason) => .error (.failed reason)
  | some (.response response) =>
    if !response.hasAsciiHeaders then .error .badHeaders
    let content ← response.content.mapError fun _ => .badContent
    if !url.isAbsolute then .error .withoutServer
    return (response, content)

/-- Asks at an address and follows at most a number of redirects. Where a redirect leads is known
even if it is not followed. -/
def visitAt (web : Web) (redirects : Nat) (url : Url) : Visit :=
  let ends (result : Except FetchError (Response × List UInt8)) : Visit := ⟨[url.text], result⟩
  match web.answer url with
  | .error error => ends (.error error)
  | .ok (response, content) =>
    match response.redirect? with
    | none =>
      ends (if response.isSuccess then .ok (response, content)
        else .error (.refused response.status))
    | some location =>
      match url.redirected location, redirects with
      | .error error, _ => ends (.error error)
      | .ok _, 0 => ends (.error (.refused response.status))
      | .ok target, redirects + 1 =>
        let next := web.visitAt redirects target
        ⟨url.text :: next.requests, next.result⟩

def visit (web : Web) (redirects : Nat) (text : String) : Visit :=
  match Url.ofRequest text with
  | .ok url => web.visitAt redirects url
  | .error error => ⟨[], .error error⟩

end Web

end TypedClient
