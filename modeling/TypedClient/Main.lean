import TypedClient.CommandLine.Run

/-!
The program on the files of the machine. Documents on the web are out of its reach, and so are files whose
names are not UTF-8.
-/

namespace TypedClient.Machine

def pathError : IO.Error → PathError
  | .noFileOrDirectory .. | .noSuchThing .. => .notFound
  | .inappropriateType .. => .notDirectory
  | .alreadyExists .. => .alreadyThere
  | .invalidArgument .. => .tooLong
  | _ => .unusable

/-- Does something with a path, if the machine has one for it. -/
def attempt (path : Path) (action : String → IO α) : IO (Except PathError α) := do
  if path.parts.any FileName.isUnusable then return .error .unusable
  match Text.plain? path.text.toList with
  | none => return .error .unusable
  | some chars =>
    try return .ok (← action (String.ofList chars))
    catch error => return .error (pathError error)

def load (location : String) : IO (Except LoadError Entries) := do
  if Url.isWebAddress location then return .error (.notFetched location .unreachable)
  let path := Path.ofText location
  match ← attempt path fun place => IO.FS.readBinFile place with
  | .ok content => return Document.ofContent path content >>= Document.entriesOf
  | .error cause => return .error (.unreadable path cause)

/-- What is found at a path. The content of a file does not matter. -/
def find (path : Path) : IO (Except PathError Entry) :=
  attempt path fun place => do
    let metadata ← (System.mkFilePath [place]).metadata
    return match metadata.type with
      | .dir => .directory
      | _ => .file .empty

/-- Writes a file and makes the directories that lead to it. -/
def write (file : RenderedFile) : IO (Except WriteError Unit) := do
  match ← attempt file.path.parent fun place => IO.FS.createDirAll place with
  | .error cause => return .error (.directoryNotMade file.path.parent cause)
  | .ok () =>
    match ← attempt file.path fun place => IO.FS.writeBinFile place file.content with
    | .error cause => return .error (.fileNotWritten file.path cause)
    | .ok () =>
      return if (Text.utf8? file.text).isNone then .error (.unencodable file.path) else .ok ()

/-- Writes files one after another, up to the first that fails. -/
def writeAll : List RenderedFile → IO (Except WriteError Unit)
  | [] => return .ok ()
  | file :: rest => do
    match ← write file with
    | .ok () => writeAll rest
    | .error error => return .error error

/-- Writes source files below an output directory. -/
def writeSources (outputDirectory : Path) (files : List RenderedFile) :
    IO (Except WriteError Unit) := do
  match acceptOutputDirectory outputDirectory (← find outputDirectory) with
  | .error error => return .error error
  | .ok () => writeAll files

def generate (request : Request) : IO CommandLine.Ending := do
  let loaded := (← load request.document).mapError .load
  match loaded >>= fun document => Generation.ofDocument document request.hasHeader with
  | .error error => return CommandLine.endingOfError error
  | .ok client =>
    let files := client.files.map (.ofSource request.outputDirectory)
    match ← writeSources request.outputDirectory files with
    | .error error => return CommandLine.endingOfError (.write error)
    | .ok () => return CommandLine.endingOf (.ofClient request client (files.map (·.path)))

/-- Runs the program on the arguments of its command line. -/
def run (arguments : List String) : IO CommandLine.Ending :=
  match CommandLine.parse arguments with
  | .error error => return .misused error
  | .ok .help => return .finished CommandLine.help false
  | .ok .valueless => return .broken .valueless
  | .ok (.generate request) => generate request

/-- The text that is spelled, with the codes of halves of pairs in place of these. -/
def printed (text : String) : String :=
  String.ofList ((Text.plain? (Text.withoutHalves text).toList).getD [])

end TypedClient.Machine

/-- Runs the program and prints what it says. -/
def main (arguments : List String) : IO UInt32 := do
  let spelled := arguments.map fun argument => String.ofList (TypedClient.Text.spelled argument.toList)
  let ending ← TypedClient.Machine.run spelled
  IO.print (TypedClient.Machine.printed ending.output)
  IO.eprint (TypedClient.Machine.printed ending.errorOutput)
  return UInt32.ofNat (ending.status?.getD 1)
