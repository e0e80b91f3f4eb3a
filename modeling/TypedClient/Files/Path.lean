import TypedClient.Files.Name
import TypedClient.Text.Pieces

/-!
Paths of files. A path is relative or starts at a root, which is written as one slash or as exactly
two. Its parts are names; parts that stay in place are dropped, and parts that go up are kept,
because where they lead depends on the files.
-/

namespace TypedClient

/-- A path. The root is empty for a relative path. -/
structure Path where
  root : String
  parts : List String
  deriving DecidableEq, Repr

namespace Path

/-- The part that leads to the enclosing directory. -/
def up : String := ".."

def staysInPlace (part : String) : Bool :=
  part == "" || part == "."

def partsOf (text : String) : List String :=
  (Text.pieces '/' text).filter fun part => !staysInPlace part

/-- The root that a text starts with. Three slashes or more are one. -/
def rootOf (text : String) : String :=
  match (text.toList.takeWhile (· == '/')).length with
  | 0 => ""
  | 2 => "//"
  | _ => "/"

def ofText (text : String) : Path :=
  ⟨rootOf text, partsOf text⟩

/-- The text of a path. A path without parts is written as a point. -/
def text (path : Path) : String :=
  if path.root.isEmpty && path.parts.isEmpty then "."
  else path.root ++ "/".intercalate path.parts

/-- The number of octets of the text of a path, with a slash between two parts. -/
def size (path : Path) : Nat :=
  if path.root.isEmpty && path.parts.isEmpty then 1
  else path.root.utf8ByteSize + (path.parts.flatMap FileName.octets).length + (path.parts.length - 1)

/-- A path continued by another one. A path that starts at a root replaces what stands before it. -/
def append (path other : Path) : Path :=
  if other.root.isEmpty then ⟨path.root, path.parts ++ other.parts⟩ else other

/-- A path continued by the path that a text writes. -/
def join (path : Path) (text : String) : Path :=
  path.append (ofText text)

def parent (path : Path) : Path :=
  ⟨path.root, path.parts.dropLast⟩

/-- What follows the last point of a name, with the point. A point at the start or at the end of the
name does not count. -/
def extensionOf (name : String) : String :=
  let chars := name.toList
  let behind := chars.reverse.takeWhile (· != '.')
  let start := chars.length - behind.length - 1
  if behind.isEmpty || start = 0 then "" else String.ofList ('.' :: behind.reverse)

/-- The extension of the last part. -/
def extension (path : Path) : String :=
  (path.parts.getLast?.map extensionOf).getD ""

end Path

end TypedClient
