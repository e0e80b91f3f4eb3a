import TypedClient.Text.Spelling

/-!
Names of files. On disk a name is octets. Read as a text they are UTF-8, and octets that are not UTF-8
stand each for a half of a pair; so different texts can name one file, when halves make up a character
together.
-/

namespace TypedClient.FileName

open Text (CodePoint)

/-- The octet that a half stands for; only octets beyond ASCII are written in this way. -/
def octet? : CodePoint → Option UInt8
  | .char _ => none
  | .half index =>
    if 0x480 ≤ index.val ∧ index.val < 0x500 then some (.ofNat (index.val - 0x400)) else none

/-- No name holds the code point: it is the null character, or a half that stands for no octet. -/
def isRefused (point : CodePoint) : Bool :=
  match point with
  | .char c => c == '\x00'
  | .half _ => (octet? point).isNone

/-- No file has the name. -/
def isUnusable (name : String) : Bool :=
  (Text.codePoints name.toList).any isRefused

/-- The octets of a name that some file can have. -/
def octets (name : String) : List UInt8 :=
  (Text.codePoints name.toList).flatMap fun point =>
    match point with
    | .char c => String.utf8EncodeChar c
    | .half _ => (octet? point).toList

/-- The character that halves at the front make up, if there are so many. -/
def joinedAt? (points : List CodePoint) (count : Nat) : Option Char := do
  let octets ← (points.take count).mapM octet?
  match (← String.fromUTF8? ⟨octets.toArray⟩).toList with
  | [c] => some c
  | _ => none

/-- Puts halves together that make up a character, which takes two to four of them. The first code
points are left out. -/
def joinHalves : Nat → List CodePoint → List CodePoint
  | _, [] => []
  | skipped + 1, _ :: rest => joinHalves skipped rest
  | 0, point :: rest =>
    match [2, 3, 4].findSome? fun count => (joinedAt? (point :: rest) count).map (·, count) with
    | some (c, count) => .char c :: joinHalves (count - 1) rest
    | none => point :: joinHalves 0 rest

/-- The name that a file gets, as it is read from the disk. -/
def onDisk (name : String) : String :=
  String.ofList (Text.spelling (joinHalves 0 (Text.codePoints name.toList)))

end TypedClient.FileName
