import TypedClient.Yaml.Graph.OfTokens

namespace TypedClient.Yaml

/-- What the directives of a document say. -/
structure Preamble where
  hasVersion : Bool
  handles : TagHandles

def Preamble.empty : Preamble :=
  ⟨false, []⟩

/-- Takes one more directive into account. -/
def Preamble.add (preamble : Preamble) : Directive → Except Fault Preamble
  | .version major _ =>
    if preamble.hasVersion then .error (.malformed .repeatedDirective)
    else if major = 1 then .ok { preamble with hasVersion := true }
    else .error (.malformed .unsupportedVersion)
  | .tagHandle handle meaning =>
    if (preamble.handles.lookup handle).isSome then .error (.malformed .repeatedDirective)
    else .ok { preamble with handles := preamble.handles ++ [(handle, meaning)] }
  | .other _ => .ok preamble

/-- Reads the directives of a document and its mark. The handles that every document has keep their
meaning unless a directive changes it. -/
def readPreamble (preamble : Preamble) : List Token → Except Fault (TagHandles × List Token)
  | .directive directive :: rest => do readPreamble (← preamble.add directive) rest
  | .documentStart :: rest => .ok (preamble.handles ++ defaultHandles, rest)
  | tokens => .error (refusal tokens .expectedDocumentStart)

def endsDocument : List Token → Bool
  | [] | .directive _ :: _ | .documentStart :: _ | .documentEnd :: _ => true
  | _ => false

def afterEndMarks (tokens : List Token) : List Token :=
  tokens.dropWhile (· == .documentEnd)

/-- Reads the node of a document that starts with directives or a mark. -/
def readMarkedDocument (tokens : List Token) : Composing (Nat × List Token) := do
  let (handles, content) ← readPreamble .empty tokens
  let node ← readOptionalNode handles endsDocument false content
  return (node.value, node.rest)

def readDocument (tokens : List Token) : Composing (Option Nat × List Token) :=
  match tokens with
  | [] => return (none, [])
  | .directive _ :: _ | .documentStart :: _ => do
    let (root, rest) ← readMarkedDocument tokens
    return (some root, rest)
  | _ => do
    let root ← readNode defaultHandles false tokens
    return (some root.value, root.rest)

def ensureStreamEnd (tokens : List Token) : Except Fault Unit :=
  match afterEndMarks tokens with
  | [] => .ok ()
  | following => do
    let _ ← readPreamble .empty following
    .error (.malformed .secondDocument)

def Graph.ofStream (tokens : List Token) : Except Fault (Option Nat × Graph) := do
  let ((root, rest), graph) ← (readDocument tokens).run .empty
  ensureStreamEnd rest
  return (root, graph)

end TypedClient.Yaml
