import TypedClient.Basic
import TypedClient.Files.Store
import TypedClient.Json.Reader
import TypedClient.Value.Text
import TypedClient.Web.Visit
import TypedClient.Yaml.Graph.Value

/-!
Loading a document from a file or from the web. The document is JSON when the name of the file or
the server says so, and YAML otherwise; it must be a mapping.
-/

namespace TypedClient

/-- Why a document is not loaded. The source of a text is its path or its address. -/
inductive LoadError where
  | unreadable (path : Path) (cause : PathError)
  | notUtf8 (path : Path)
  | notFetched (url : String) (cause : FetchError)
  /-- What is fetched has no text in its charset. -/
  | notText (url : String) (cause : Text.CharsetFault)
  | badJson (source : String) (error : Json.Error)
  | badYaml (source : String) (fault : Yaml.Fault)
  | notMapping (kind : String)
  deriving DecidableEq, Repr

namespace LoadError

/-- The failure is one that loading reports; others end the whole run. A path or a text that cannot
be read at all is not reported, and neither is a number or a date that only looks like one, or an
address that only looks like one. -/
def isReported : LoadError → Bool
  | unreadable _ cause => cause != .unusable
  | notUtf8 _ | notText .. => false
  | notFetched _ cause => cause.isReported
  | badJson _ error => error.cause != .tooManyDigits
  | badYaml _ (.misfit _) => false
  | _ => true

def complaint : LoadError → Complaint
  | unreadable path cause =>
    ⟨"Failed to read OpenAPI file " ++ path.text ++ ": ", some cause.message⟩
  | notUtf8 path => .plain ("The text of " ++ path.text ++ " is not UTF-8")
  | notFetched url cause =>
    ⟨"Failed to fetch OpenAPI document from " ++ url ++ ": ", some cause.message⟩
  | notText url cause =>
    .plain ("The content at " ++ url ++ " has no text: " ++ cause.message)
  | badJson source error => .plain ("Failed to parse JSON in " ++ source ++ ": " ++ error.message)
  | badYaml source (.malformed cause) =>
    ⟨"Failed to parse YAML in " ++ source ++ ": ", some cause.message⟩
  | badYaml source (.misfit cause) =>
    .plain ("A scalar in " ++ source ++ " is " ++ cause.message)
  | notMapping kind =>
    .plain ("OpenAPI document must deserialize to a mapping, got <class '" ++ kind ++ "'>")

end LoadError

namespace Document

/-- The value of a text in one of the two formats. -/
def parse (source text : String) (isJson : Bool) : Except LoadError Value :=
  if isJson then (Json.read text).mapError (.badJson source)
  else (Yaml.read text).mapError (.badYaml source)

/-- The spelling of the text of a file: UTF-8, with line feeds for all kinds of line ends. -/
def textOf? (content : ByteArray) : Option String :=
  (String.fromUTF8? content).map fun text =>
    String.ofList (Text.spelled (Text.normaliseLineEnds text.toList))

/-- A file of this name holds JSON. -/
def isJsonPath (path : Path) : Bool :=
  path.extension.toList.map Char.toLower == ".json".toList

def ofContent (path : Path) (content : ByteArray) : Except LoadError Value :=
  match textOf? content with
  | some text => parse path.text text (isJsonPath path)
  | none => .error (.notUtf8 path)

def readFile (store : Store) (path : Path) : Except LoadError Value := do
  let content ← (store.read path).mapError (.unreadable path)
  ofContent path content

/-- The value of what the web has at an address. -/
def fetch (web : Web) (redirects : Nat) (url : String) : Except LoadError Value := do
  let (response, content) ← (web.visit redirects url).result.mapError (.notFetched url)
  let text ← (response.textOf content).mapError (.notText url)
  parse url text response.isJson

def requests (web : Web) (redirects : Nat) (location : String) : List String :=
  if Url.isWebAddress location then (web.visit redirects location).requests else []

def loadValue (store : Store) (web : Web) (redirects : Nat) (location : String) :
    Except LoadError Value :=
  if Url.isWebAddress location then fetch web redirects location
  else readFile store (.ofText location)

/-- The entries of a value, which must be a mapping. -/
def entriesOf (value : Value) : Except LoadError Entries :=
  match value.entries? with
  | some entries => .ok entries
  | none => .error (.notMapping value.kind)

/-- The entries of a document. -/
def load (store : Store) (web : Web) (redirects : Nat) (location : String) :
    Except LoadError Entries := do
  entriesOf (← loadValue store web redirects location)

end Document

end TypedClient
