import TypedClient.Web.Url

/-!
References between documents. A reference leaves out what it has in common with the address of the
document that holds it. Schemes without a hierarchy have no such references.
-/

namespace TypedClient

/-- An address or a reference. Parts that are not written are empty. Parameters stand behind a
semicolon in the last segment of a path. -/
structure Reference where
  scheme : List Char
  authority : List Char
  path : List Char
  parameters : List Char
  query : List Char
  fragment : List Char
  deriving DecidableEq, Repr

namespace Reference

/-- Schemes whose references leave out the scheme. -/
def hierarchical : List String :=
  ["", "ftp", "http", "gopher", "nntp", "imap", "wais", "file", "https", "shttp", "mms", "prospero",
    "rtsp", "rtsps", "rtspu", "sftp", "svn", "svn+ssh", "ws", "wss"]

def served : List String :=
  ["", "ftp", "http", "gopher", "nntp", "telnet", "imap", "wais", "file", "mms", "https", "shttp",
    "snews", "prospero", "rtsp", "rtsps", "rtspu", "rsync", "svn", "svn+ssh", "sftp", "nfs", "git",
    "git+ssh", "ws", "wss"]

def parameterised : List String :=
  ["", "ftp", "hdl", "prospero", "http", "imap", "https", "shttp", "rtsp", "rtsps", "rtspu", "sip",
    "sips", "mms", "sftp", "tel"]

def isOne (schemes : List String) (scheme : List Char) : Bool :=
  schemes.contains (String.ofList scheme)

/-- Takes the parameters from the last segment of a path. -/
def takeParameters (scheme path : List Char) : List Char × List Char :=
  let last := (path.reverse.takeWhile (· != '/')).reverse
  if isOne parameterised scheme && last.contains ';' then
    let directory := path.take (path.length - last.length)
    (directory ++ last.takeWhile (· != ';'), (last.dropWhile (· != ';')).drop 1)
  else (path, [])

/-- The parts of a text. Without a scheme of its own it has another one. -/
def ofText (otherScheme text : List Char) : Reference :=
  let (ownScheme, rest) := Url.takeScheme text
  let (scheme, rest) :=
    if ownScheme.isEmpty then (otherScheme, text) else (ownScheme.map Char.toLower, rest)
  let (authority, rest) := Url.takeAuthority rest
  let (rest, fragment) := Url.cut (· == '#') rest
  let (path, query) := Url.cut (· == '?') rest
  let (path, parameters) := takeParameters scheme path
  ⟨scheme, authority, path, parameters, query.drop 1, fragment.drop 1⟩

def text (reference : Reference) : List Char :=
  let mark (sign : Char) (part : List Char) : List Char := if part.isEmpty then [] else sign :: part
  let path := reference.path ++ mark ';' reference.parameters
  let hasAuthority := !reference.authority.isEmpty || "//".toList.isPrefixOf path ||
    (!reference.scheme.isEmpty && isOne served reference.scheme)
  let located :=
    if hasAuthority then
      let slash := if path.isEmpty || path.head? == some '/' then [] else ['/']
      '/' :: '/' :: reference.authority ++ slash ++ path
    else path
  (if reference.scheme.isEmpty then [] else reference.scheme ++ [':']) ++ located ++
    mark '?' reference.query ++ mark '#' reference.fragment

/-- Takes steps that go up or stay in place out of the segments of a path, which are given with the
segments before them, the last one first. -/
def withoutSteps (before : List (List Char)) : List (List Char) → List (List Char)
  | [] => before.reverse
  | segment :: rest =>
    if segment == ['.', '.'] then withoutSteps before.tail rest
    else if segment == ['.'] then withoutSteps before rest
    else withoutSteps (segment :: before) rest

/-- Drops the empty segments between the first and the last one. -/
def dropEmptyInside (segments : List (List Char)) : List (List Char) :=
  segments.take 1 ++ (segments.drop 1).dropLast.filter (!·.isEmpty) ++
    (segments.drop 1).getLast?.toList

/-- The segments of the directory of a path; a directory ends with an empty segment. -/
def directory (path : List Char) : List (List Char) :=
  let segments := Text.piecesBy (· == '/') path
  if segments.getLast? == some [] then segments else segments.dropLast

/-- The path of a reference, seen from the path of a document. -/
def pathFrom (base path : List Char) : List Char :=
  let own := Text.piecesBy (· == '/') path
  let segments :=
    if path.head? == some '/' then own else dropEmptyInside (directory base ++ own)
  let endsInDirectory :=
    segments.getLast? == some ['.'] || segments.getLast? == some ['.', '.']
  let resolved := withoutSteps [] segments ++ (if endsInDirectory then [[]] else [])
  let joined := List.intercalate ['/'] resolved
  if joined.isEmpty then ['/'] else joined

/-- The address that a reference means in a document. -/
def resolve (base reference : List Char) : List Char :=
  let document := ofText [] base
  let target := ofText document.scheme reference
  if base.isEmpty then reference
  else if reference.isEmpty then base
  else if target.scheme != document.scheme || !isOne hierarchical target.scheme then reference
  else if isOne served target.scheme && !target.authority.isEmpty then target.text
  else
    let authority := if isOne served target.scheme then document.authority else target.authority
    if target.path.isEmpty && target.parameters.isEmpty then
      { target with
        authority
        path := document.path
        parameters := document.parameters
        query := if target.query.isEmpty then document.query else target.query }.text
    else { target with authority, path := pathFrom document.path target.path }.text

end Reference

end TypedClient
