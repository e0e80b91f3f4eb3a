import TypedClient.Number.Numeral
import TypedClient.Text.Spelling
import TypedClient.Web.Host

/-!
Addresses on the web, in the form in which they are sent: a scheme, the owner of a login, a host and
the number of a service there, a path, and perhaps a query and a fragment. Characters that a part
cannot hold are escaped, the host is in lower case and in ASCII, a number that the scheme implies is
left out, and the path has no steps that go up or stay in place.
-/

namespace TypedClient

/-- An address. A scheme, an owner or a host that is not written is empty. A service at the host has
a number. -/
structure Url where
  scheme : List Char
  owner : List Char
  host : List Char
  service : Option Int
  path : List Char
  query : Option (List Char)
  fragment : Option (List Char)
  deriving DecidableEq, Repr

namespace Url

/-- The text starts like an address of a web server. The long s is a form of the letter s. -/
def isWebAddress (text : String) : Bool :=
  let isLetter (lower : Char) (c : Char) : Bool := c.toLower == lower
  let isS (c : Char) : Bool := isLetter 's' c || c == '\u017f'
  match text.toList with
  | h :: t :: u :: p :: rest =>
    let behind :=
      match rest with
      | s :: others => if isS s then others else rest
      | [] => []
    isLetter 'h' h && isLetter 't' t && isLetter 't' u && isLetter 'p' p &&
      "://".toList.isPrefixOf behind
  | _ => false

/-! ### Parts as they are written -/

/-- Cuts a text at the first character of a class, which starts the second part. -/
def cut (stops : Char → Bool) (chars : List Char) : List Char × List Char :=
  (chars.takeWhile fun c => !stops c, chars.dropWhile fun c => !stops c)

/-- The parts of an address as they are written. The service is what stands behind the host. -/
structure Written where
  scheme : List Char
  owner : List Char
  host : List Char
  service : List Char
  path : List Char
  query : Option (List Char)
  fragment : Option (List Char)

/-- Nothing, or a letter and then letters, digits and three marks. -/
def isScheme : List Char → Bool
  | first :: rest =>
    first.isAlpha && rest.all fun c => c.isAlphanum || c == '+' || c == '-' || c == '.'
  | [] => true

/-- Takes the scheme and the colon behind it from the front. -/
def takeScheme (chars : List Char) : List Char × List Char :=
  match cut (· == ':') chars with
  | (scheme, _ :: rest) => if isScheme scheme then (scheme, rest) else ([], chars)
  | _ => ([], chars)

/-- Takes two slashes and the authority behind them from the front. -/
def takeAuthority : List Char → List Char × List Char
  | '/' :: '/' :: rest => cut (fun c => c == '/' || c == '?' || c == '#') rest
  | rest => ([], rest)

/-- Takes a part from the front that ends with the last character of a kind, if there is one. -/
def takeThrough (mark : Char) (chars : List Char) : List Char × List Char :=
  let behind := (chars.reverse.takeWhile (· != mark)).reverse
  (chars.take (chars.length - behind.length), behind)

/-- Takes the host from the front of an authority without an owner: text in brackets up to the last
one, or what stands in front of a colon. -/
def takeHost (chars : List Char) : List Char × List Char :=
  let (bracketed, behind) := takeThrough ']' chars
  if chars.head? == some '[' && !bracketed.isEmpty then (bracketed, behind)
  else cut (fun c => c == ':' || c == '@') chars

def Written.ofText (text : List Char) : Written :=
  let (scheme, rest) := takeScheme text
  let (authority, rest) := takeAuthority rest
  let (rest, fragment) := cut (· == '#') rest
  let (path, query) := cut (· == '?') rest
  let behindMark (part : List Char) : Option (List Char) :=
    match part with
    | [] => none
    | _ :: content => some content
  let (owner, rest) := takeThrough '@' authority
  let (host, service) := takeHost rest
  { scheme
    owner := owner.dropLast
    host
    service := if service.head? == some ':' then service.drop 1 else service
    path
    query := behindMark query
    fragment := behindMark fragment }

/-! ### The form in which addresses are sent -/

def impliedServices : List (String × Int) :=
  [("ftp", 21), ("http", 80), ("https", 443), ("ws", 80), ("wss", 443)]

/-- Reads the number of a service. No number is the same as the one that the scheme implies; the
scheme implies one only in small letters. -/
def readService? (scheme text : List Char) : Option (Option Int) :=
  if text.isEmpty then some none
  else
    (Numeral.readInt? 10 text).map fun service =>
      if impliedServices.lookup (String.ofList scheme) == some service then none else some service

/-- Takes steps that go up or stay in place out of the segments of a path, which are given with the
segments before them, the last one first. No step goes up from the root. -/
def withoutSteps (before : List (List Char)) : List (List Char) → List (List Char)
  | [] => before.reverse
  | segment :: rest =>
    if segment == ['.'] then withoutSteps before rest
    else if segment == ['.', '.'] then
      withoutSteps (if before == [[]] then before else before.tail) rest
    else withoutSteps (segment :: before) rest

/-- A path without steps that go up or stay in place. -/
def plainPath (path : List Char) : List Char :=
  List.intercalate ['/'] (withoutSteps [] (Text.piecesBy (· == '/') path))

/-- A path can follow what stands in front of it: with an authority it starts with a slash, and with
nothing in front of it, it does not start like an authority or a scheme. -/
def isPathBehind (hasScheme hasAuthority : Bool) (path : List Char) : Bool :=
  if hasAuthority then path.isEmpty || path.head? == some '/'
  else hasScheme || !("//".toList.isPrefixOf path || path.head? == some ':')

/-- An address in the form in which it is sent, if its parts are in order. -/
def ofWritten? (written : Written) : Option Url := do
  let owner := Percent.encode .owner written.owner
  let host ← Host.normal? written.host
  let service ← readService? written.scheme written.service
  let hasScheme := !written.scheme.isEmpty
  let hasAuthority := !owner.isEmpty || !host.isEmpty || service.isSome
  if !isPathBehind hasScheme hasAuthority written.path then none
  let path := if hasScheme || hasAuthority then plainPath written.path else written.path
  return {
    scheme := written.scheme.map Char.toLower
    owner
    host
    service
    path := Percent.encode .path path
    query := written.query.map (Percent.encode .query)
    fragment := written.fragment.map (Percent.encode .fragment) }

def lengthLimit : Nat := 65536

/-- A text that may be an address or a part of one: it is not too long and has no control
characters. -/
def isAcceptable (text : List Char) : Bool :=
  text.length ≤ lengthLimit && text.all fun c => 0x20 ≤ c.toNat && c.toNat != 0x7f

/-- The address that a text is, if it is one. A text with halves of pairs is none. -/
def ofText? (text : String) : Option Url := do
  let chars ← Text.plain? text.toList
  if isAcceptable chars then ofWritten? (.ofText chars) else none

/-! ### Text -/

def authority (url : Url) : List Char :=
  (if url.owner.isEmpty then [] else url.owner ++ ['@']) ++ Host.written url.host ++
    ((url.service.map fun service => ':' :: (toString service).toList).getD [])

def text (url : Url) : String :=
  let mark (sign : Char) (part : Option (List Char)) : List Char := (part.map (sign :: ·)).getD []
  String.ofList <|
    (if url.scheme.isEmpty then [] else url.scheme ++ [':']) ++
      (if url.authority.isEmpty then [] else '/' :: '/' :: url.authority) ++ url.path ++
      mark '?' url.query ++ mark '#' url.fragment

/-- The parts of an address, to be put together again. -/
def parts (url : Url) : Written where
  scheme := url.scheme
  owner := url.owner
  host := Host.written url.host
  service := (url.service.map fun service => (toString service).toList).getD []
  path := url.path
  query := url.query
  fragment := url.fragment

def withParts? (written : Written) : Option Url :=
  let texts := [written.scheme, written.host, written.path, written.query.getD [],
    written.fragment.getD []]
  if texts.all isAcceptable then ofWritten? written else none

def isAbsolute (url : Url) : Bool :=
  !url.scheme.isEmpty && !url.host.isEmpty

end Url

end TypedClient
