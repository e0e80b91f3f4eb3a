import TypedClient.Basic
import TypedClient.Files.Store
import TypedClient.Source.Statement
import TypedClient.Text.Spelling

/-!
Writing source files below an output directory. Every file is rendered before the first is written;
what is written before a failure stays. A text is encoded when its file is already open.
-/

namespace TypedClient

inductive WriteError where
  | notDirectory (path : Path)
  /-- It cannot be told whether the output directory is there. -/
  | unknowable (path : Path) (cause : PathError)
  | directoryNotMade (path : Path) (cause : PathError)
  | fileNotWritten (path : Path) (cause : PathError)
  /-- The text of a file has halves of pairs, which cannot be encoded. -/
  | unencodable (path : Path)
  deriving DecidableEq, Repr

namespace WriteError

/-- The failure is one that writing reports; others end the whole run. -/
def isReported : WriteError → Bool
  | notDirectory _ => true
  | unknowable _ _ | unencodable _ => false
  | directoryNotMade _ cause | fileNotWritten _ cause => cause != .unusable

def complaint : WriteError → Complaint
  | notDirectory path => .plain ("Output path is not a directory: " ++ path.text)
  | unknowable path cause => .plain ("Failed to look at " ++ path.text ++ ": " ++ cause.message)
  | directoryNotMade path cause =>
    ⟨"Failed to create directory " ++ path.text ++ ": ", some cause.message⟩
  | fileNotWritten path cause =>
    ⟨"Failed to write file " ++ path.text ++ ": ", some cause.message⟩
  | unencodable path => .plain ("The text of " ++ path.text ++ " cannot be written in UTF-8")

end WriteError

/-- A text and where it is written. -/
structure RenderedFile where
  path : Path
  text : String
  deriving DecidableEq, Repr

namespace RenderedFile

/-- The text of a source file and its path below an output directory. -/
def ofSource (outputDirectory : Path) (file : SourceFile) : RenderedFile :=
  ⟨outputDirectory.join file.relativePath, file.render⟩

/-- What the file holds when it is written. A text that cannot be encoded leaves nothing in it. -/
def content (file : RenderedFile) : ByteArray :=
  (Text.utf8? file.text).getD .empty

/-- Writes a file and makes the directories that lead to it. -/
def write (file : RenderedFile) : EStateM WriteError Store Unit := do
  EStateM.adaptExcept (.directoryNotMade file.path.parent) (Store.makeDirectories file.path.parent)
  EStateM.adaptExcept (.fileNotWritten file.path) (Store.write file.path file.content)
  if (Text.utf8? file.text).isNone then throw (.unencodable file.path)

def writeAll : List RenderedFile → EStateM WriteError Store Unit
  | [] => pure ()
  | file :: rest => do
    file.write
    writeAll rest

end RenderedFile

/-- Refuses an output directory that is something else, by what is found at its path. It need not be
there. -/
def acceptOutputDirectory (path : Path) (found : Except PathError Entry) : Except WriteError Unit :=
  match found with
  | .ok .directory => .ok ()
  | .ok (.file _) => .error (.notDirectory path)
  | .error .tooLong => .error (.unknowable path .tooLong)
  | .error _ => .ok ()

def checkOutputDirectory (store : Store) (path : Path) : Except WriteError Unit :=
  acceptOutputDirectory path (store.find path)

/-- Writes source files below an output directory. The answer has their paths in order. -/
def writeSources (outputDirectory : Path) (files : List SourceFile) :
    EStateM WriteError Store (List Path) := do
  let rendered := files.map (RenderedFile.ofSource outputDirectory)
  match checkOutputDirectory (← get) outputDirectory with
  | .error error => throw error
  | .ok _ => RenderedFile.writeAll rendered
  return rendered.map (·.path)

end TypedClient
