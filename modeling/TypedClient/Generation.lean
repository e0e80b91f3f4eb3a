import TypedClient.Client.Report
import TypedClient.Client.Write
import TypedClient.Document.Load
import TypedClient.Document.Version

/-!
Generating a client: a document is loaded, its version is checked, it is compiled in memory, and
only then are the files of the client written.
-/

namespace TypedClient

/-- What a client is generated from and where it is written. -/
structure Request where
  document : String
  outputDirectory : Path
  hasHeader : Bool
  verifies : Bool
  deriving DecidableEq, Repr

/-- What the world outside holds: files, and the replies of the web. -/
structure World where
  store : Store
  web : Web
  /-- The most redirects that are followed. -/
  redirects : Nat

inductive GenerationError where
  | load (error : LoadError)
  | version (error : VersionError)
  | compile (error : CompileError)
  | write (error : WriteError)
  /-- What is asked for has no value. -/
  | valueless
  deriving DecidableEq, Repr

namespace GenerationError

/-- The failure is one that generation reports; others end the whole run. -/
def isReported : GenerationError → Bool
  | load error => error.isReported
  | version _ => true
  | compile error => !([CompileError.compositePlace, .unwritable, .endless].contains error)
  | write error => error.isReported
  | valueless => false

def complaint : GenerationError → Complaint
  | load error => error.complaint
  | version error => .plain error.message
  | compile error => .plain error.message
  | write error => error.complaint
  | valueless => .plain "An option is left without a value"

end GenerationError

/-- A client that is generated. The report is made when verification is asked for. -/
structure Generation where
  outputDirectory : Path
  written : List Path
  client : Client
  report : Option Report

namespace Generation

/-- The client of a document, whose version is checked first. -/
def ofDocument (document : Entries) (hasHeader : Bool) : Except GenerationError Client := do
  let version ← (Document.version document).mapError .version
  (Document.ensureSupported version).mapError .version
  (Client.compile document (if hasHeader then Client.defaultHeader else [])).mapError .compile

/-- The client of the document of a request. Nothing is written. -/
def clientOf (world : World) (request : Request) : Except GenerationError Client := do
  let document ←
    (Document.load world.store world.web world.redirects request.document).mapError .load
  ofDocument document request.hasHeader

def reportOf (client : Client) : Report :=
  .ofClient client.models client.services

/-- What a request comes to when the files of the client are written. -/
def ofClient (request : Request) (client : Client) (written : List Path) : Generation where
  outputDirectory := request.outputDirectory
  written := written
  client := client
  report := if request.verifies then some (reportOf client) else none

/-- Generates a client. The store holds what was written, also after a failure. -/
def run (world : World) (request : Request) :
    EStateM.Result GenerationError Store Generation :=
  match clientOf world request with
  | .error error => .error error world.store
  | .ok client =>
    match writeSources request.outputDirectory client.files world.store with
    | .error error store => .error (.write error) store
    | .ok written store =>
      .ok (.ofClient request client written) store

end Generation

end TypedClient
