import TypedClient.Text.Charset.Utf8
import TypedClient.Text.Character

/-!
Tables of characters. A code page is the table of a charset in which every octet stands for one
character. Other tables hold runs: the code of the first character, and the characters with this code
and those behind it. The runs are in the order of their codes.
-/

namespace TypedClient.Text

/-- A table of characters with its names. The table holds four hexadecimal digits for every octet
from 128 on, or for all octets. -/
structure CodePage where
  names : List String
  rows : List String

namespace CodePage

/-- The characters that rows of hexadecimal digits stand for, four digits each. -/
def charsOf : List Char → List Char
  | a :: b :: c :: d :: rest =>
    let code := [a, b, c, d].foldl (fun code digit =>
      16 * code + (digitValueIn? 16 digit).getD 0) 0
    Char.ofNat code :: charsOf rest
  | _ => []

/-- The characters of all octets. A table of one half leaves the other half to ASCII. -/
def table (page : CodePage) : Array Char :=
  let chars := charsOf (String.join page.rows).toList
  let ascii := (List.range (256 - chars.length)).map Char.ofNat
  (ascii ++ chars).toArray

def decode (page : CodePage) (octets : List UInt8) : List Char :=
  let table := page.table
  octets.map fun octet => table.getD octet.toNat replacement

end CodePage

abbrev CharTable := List (Nat × String)

namespace CharTable

/-- The last run that starts at a code or before it. -/
def runAt? (table : CharTable) (code : Nat) : Option (Nat × String) :=
  (table.takeWhile fun run => run.1 ≤ code).getLast?

def char? (table : CharTable) (code : Nat) : Option Char := do
  let (first, chars) ← table.runAt? code
  chars.toList[code - first]?

end CharTable

end TypedClient.Text
