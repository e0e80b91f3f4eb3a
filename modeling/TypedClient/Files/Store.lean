import TypedClient.Basic
import TypedClient.Files.Path

/-!
A store of files and directories with a working directory. A path is followed part by part, and
every part but the last must lead to a directory that is there, also when the next part goes up
again. Actions keep what they did before they fail.
-/

namespace TypedClient

/-- A place in a store: the names that lead to it, the innermost first. The root has no names. -/
abbrev Location := List String

inductive Entry where
  | file (content : ByteArray)
  | directory

instance : DecidableEq Entry
  | .file content, .file other =>
    match ByteArray.instDecidableEq content other with
    | isTrue same => isTrue (congrArg Entry.file same)
    | isFalse different => isFalse fun same => different (Entry.file.inj same)
  | .directory, .directory => isTrue rfl
  | .file _, .directory => isFalse Entry.noConfusion
  | .directory, .file _ => isFalse Entry.noConfusion

/-- Files and directories at their places. The root is always a directory. -/
structure Store where
  entries : List (Location × Entry)
  workingDirectory : Location
  deriving DecidableEq

/-- Why nothing can be done with a path. -/
inductive PathError where
  | notFound
  | notDirectory
  | isDirectory
  | alreadyThere
  | tooLong
  /-- A part of the path is the name of no file. -/
  | unusable
  deriving DecidableEq, Repr

namespace PathError

def message : PathError → String
  | notFound => "there is no such file or directory"
  | notDirectory => "a part of the path is no directory"
  | isDirectory => "this is a directory"
  | alreadyThere => "there is something of this name"
  | tooLong => "the name is too long"
  | unusable => "the path has a part that is no name"

end PathError

abbrev StoreAction := EStateM PathError Store

namespace Store

/-- No files, and the root as the working directory. -/
def empty : Store :=
  ⟨[], []⟩

def entry? (store : Store) : Location → Option Entry
  | [] => some .directory
  | location => store.entries.lookup location

def hasDirectory (store : Store) (location : Location) : Bool :=
  match store.entry? location with
  | some .directory => true
  | _ => false

def put (store : Store) (location : Location) (entry : Entry) : Store :=
  { store with entries := upsert (· == ·) location entry store.entries }

/-! ### Following paths -/

/-- The most octets of a name. -/
def nameLimit : Nat := 255

/-- The most octets of a path. -/
def pathLimit : Nat := 4095

/-- Goes from a place to one of its names, or up. -/
def step (store : Store) (here : Location) (part : String) : Except PathError Location :=
  match store.entry? here with
  | none => .error .notFound
  | some (.file _) => .error .notDirectory
  | some .directory =>
    if part = Path.up then .ok here.tail
    else if (FileName.octets part).length > nameLimit then .error .tooLong
    else .ok (FileName.onDisk part :: here)

/-- Goes along parts from a place. There need not be anything at the end. -/
def follow (store : Store) (here : Location) : List String → Except PathError Location
  | [] => .ok here
  | part :: rest => do
    let next ← store.step here part
    store.follow next rest

def start (store : Store) (path : Path) : Location :=
  if path.root.isEmpty then store.workingDirectory else []

def locate (store : Store) (path : Path) : Except PathError Location :=
  if path.parts.any FileName.isUnusable then .error .unusable
  else if path.size > pathLimit then .error .tooLong
  else store.follow (store.start path) path.parts

/-- The place of a path and what is there. -/
def find (store : Store) (path : Path) : Except PathError Entry := do
  let location ← store.locate path
  match store.entry? location with
  | some entry => return entry
  | none => throw .notFound

def isDirectory (store : Store) (path : Path) : Bool :=
  match store.find path with
  | .ok .directory => true
  | _ => false

/-- The last part of a path is a name, under which something new can be made. -/
def endsInName (path : Path) : Bool :=
  match path.parts.getLast? with
  | some part => part != Path.up
  | none => false

/-- The content of the file that a path leads to. -/
def read (store : Store) (path : Path) : Except PathError ByteArray := do
  match ← store.find path with
  | .file content => return content
  | .directory => throw .isDirectory

/-! ### Making files and directories -/

def makeNewDirectory (path : Path) : StoreAction Unit := do
  let store ← get
  match store.locate path with
  | .error error => throw error
  | .ok location =>
    if endsInName path && (store.entry? location).isNone then set (store.put location .directory)
    else throw .alreadyThere

/-- Makes a directory unless it is there. -/
def makeDirectory (path : Path) : StoreAction Unit := do
  try makeNewDirectory path
  catch error => if !(← get).isDirectory path then throw error

/-- Makes the directory at the end of parts that are given from the last one, unless it is there,
and before it the directories that lead to it. -/
def makeDirectoriesTo (root : String) : List String → StoreAction Unit
  | [] => makeDirectory ⟨root, []⟩
  | last :: before => do
    let path : Path := ⟨root, (last :: before).reverse⟩
    try makeNewDirectory path
    catch
      | .notFound => do
        makeDirectoriesTo root before
        makeDirectory path
      | error => if !(← get).isDirectory path then throw error

/-- Makes a directory and the directories that lead to it, unless they are there. -/
def makeDirectories (path : Path) : StoreAction Unit :=
  makeDirectoriesTo path.root path.parts.reverse

/-- Writes a file. What was in it before is lost. -/
def write (path : Path) (content : ByteArray) : StoreAction Unit := do
  let store ← get
  match store.locate path with
  | .error error => throw error
  | .ok location =>
    if !endsInName path || store.hasDirectory location then throw .isDirectory
    else set (store.put location (.file content))

end Store

end TypedClient
