import TypedClient.Text.Charset.Stepwise
import TypedClient.Text.Charset.Table.Simplified
import TypedClient.Text.Charset.Table.Traditional

/-!
Charsets of Chinese. Those of the mainland have one order of characters, of which each holds a
larger part; one of them has four octets for all other characters, and one is written in ASCII.
Those of Taiwan and Hong Kong have another order.
-/

namespace TypedClient.Text

inductive Chinese where
  | standard
  | extended
  | full
  | inAscii
  | common
  | vendor
  | hongKong
  deriving DecidableEq, Repr

namespace Chinese

/-! ### Mainland -/

/-- The parts of the standard: the first and the last row, and the first and the last column. -/
def standardParts : List (Nat × Nat × Nat × Nat) := [
  (0xa1, 0xa1, 0xa1, 0xfe), (0xa2, 0xa2, 0xb1, 0xe2), (0xa2, 0xa2, 0xe5, 0xee),
  (0xa2, 0xa2, 0xf1, 0xfc), (0xa3, 0xa3, 0xa1, 0xfe), (0xa4, 0xa4, 0xa1, 0xf3),
  (0xa5, 0xa5, 0xa1, 0xf6), (0xa6, 0xa6, 0xa1, 0xb8), (0xa6, 0xa6, 0xc1, 0xd8),
  (0xa7, 0xa7, 0xa1, 0xc1), (0xa7, 0xa7, 0xd1, 0xf1), (0xa8, 0xa8, 0xa1, 0xba),
  (0xa8, 0xa8, 0xc5, 0xe9), (0xa9, 0xa9, 0xa4, 0xef), (0xb0, 0xd6, 0xa1, 0xfe),
  (0xd7, 0xd7, 0xa1, 0xf9), (0xd8, 0xf7, 0xa1, 0xfe)]

/-- The standard has a character with this code. -/
def isStandard (code : Nat) : Bool :=
  standardParts.any fun (top, bottom, left, right) =>
    top ≤ code / 256 && code / 256 ≤ bottom && left ≤ code % 256 && code % 256 ≤ right

/-- The character of the standard. Two of its signs are others in the extension. -/
def standardChar? (code : Nat) : Option Char :=
  if code == 0xa1a4 then some '\u30fb'
  else if code == 0xa1aa then some '\u2015'
  else if isStandard code then simplifiedTable.char? code
  else none

/-- Places that the full set leaves to its users: the first and the last row, the first and the last
column, and the code point of the first place. -/
def privateParts : List (Nat × Nat × Nat × Nat × Nat) := [
  (0xaa, 0xaf, 0xa1, 0xfe, 0xe000), (0xf8, 0xfe, 0xa1, 0xfe, 0xe234),
  (0xa1, 0xa7, 0x40, 0xa0, 0xe4c6)]

/-- The code point of a place that is left to users. No character has 7f as its second octet. -/
def privateChar? (row column : Nat) : Option Char :=
  if column == 0x7f then none
  else
    privateParts.findSome? fun (top, bottom, left, right, first) =>
      if top ≤ row && row ≤ bottom && left ≤ column && column ≤ right then
        let gap := if left ≤ 0x7f then 1 else 0
        let passed := if 0x7f < column then gap else 0
        let width := right - left + 1 - gap
        some (Char.ofNat (first + (row - top) * width + (column - left - passed)))
      else none

/-- The character that the full set adds to the extension. -/
def addedChar? (code : Nat) : Option Char :=
  match fullSetRanges.find? fun (first, last, _) => first ≤ code && code ≤ last with
  | some (first, _, char) => some (Char.ofNat (char + (code - first)))
  | none => privateChar? (code / 256) (code % 256)

/-- The character of the full set in two octets. -/
def fullChar? (code : Nat) : Option Char :=
  match simplifiedTable.char? code with
  | some char => some char
  | none => addedChar? code

def isDigit (octet : UInt8) : Bool :=
  0x30 ≤ octet && octet ≤ 0x39

/-- The character of four octets, of which the second and the fourth are digits. They number first
the characters of the basic plane that have no two octets, and then those of the other planes. -/
def fourOctetChar? (a b c d : UInt8) : Option Char :=
  let isLead (octet : UInt8) : Bool := 0x81 ≤ octet && octet ≤ 0xfe
  if isLead a && isLead c && isDigit d then
    let place := (c.toNat - 0x81) * 10 + (d.toNat - 0x30)
    let number (first : Nat) : Nat := ((a.toNat - first) * 10 + (b.toNat - 0x30)) * 1260 + place
    if a < 0x85 then
      let number := number 0x81
      match (fourOctetRanges.takeWhile fun range => range.1 ≤ number).getLast? with
      | some (first, char) =>
        if number < 39420 then some (Char.ofNat (char + (number - first))) else none
      | none => none
    else if 0x90 ≤ a then
      let code := 0x10000 + number 0x90
      if code ≤ 0x10ffff then some (Char.ofNat code) else none
    else none
  else none

def fullFront (state : Unit) (octets : List UInt8) : Front Unit :=
  match octets with
  | a :: b :: rest =>
    if 0x80 ≤ a && isDigit b then
      match rest with
      | c :: d :: _ => Stepwise.frontOf () 4 ((fourOctetChar? a b c d).map ([·]))
      | _ => .start
    else Stepwise.pairFront (fun high low =>
      (fullChar? (Stepwise.codeOf high low)).map ([·])) state octets
  | _ => Stepwise.pairFront (fun _ _ => none) state octets

/-- What stands in front of octets that write the standard in ASCII. A tilde with a brace starts and
ends Chinese characters; with a line feed it goes on with the line, and with a tilde it is one. -/
def asciiFront (isChinese : Bool) (octets : List UInt8) : Front Bool :=
  match octets with
  | [] => .start
  | high :: rest =>
    if 0x80 ≤ high then .nothing 1
    else if high == 0x7e || isChinese then
      match rest with
      | [] => .start
      | low :: _ =>
        if high == 0x7e then
          if isChinese then if low == 0x7d then .text [] 2 false else .nothing 1
          else if low == 0x7e then .text ['~'] 2 false
          else if low == 0x7b then .text [] 2 true
          else if low == 0x0a then .text [] 2 false
          else .nothing 1
        else
          let code := Stepwise.codeOf high low
          let char := if low < 0x80 then standardChar? (code + 0x8080) else none
          Stepwise.frontOf isChinese 2 (char.map ([·]))
    else .text [Char.ofNat high.toNat] 1 false

/-! ### Taiwan and Hong Kong -/

/-- The character of the vendor that has some in other places. -/
def vendorChar? (code : Nat) : Option Char :=
  match vendorTraditionalTable.char? code with
  | some char => some char
  | none => traditionalTable.char? code

/-- Codes of the supplement that stand for a letter and a mark. -/
def hongKongPairs : List (Nat × List Char) := [
  (0x8862, ['\u00ca', '\u0304']), (0x8864, ['\u00ca', '\u030c']),
  (0x88a3, ['\u00ea', '\u0304']), (0x88a5, ['\u00ea', '\u030c'])]

/-- The characters of Hong Kong. The supplement has some rows for itself. -/
def hongKongChars? (code : Nat) : Option (List Char) :=
  match hongKongPairs.lookup code with
  | some chars => some chars
  | none =>
    match hongKongTable.char? code with
    | some char => some [char]
    | none =>
      if 0xc6a1 ≤ code && code ≤ 0xc8ff then none
      else (traditionalTable.char? code).map ([·])

/-! ### All charsets -/

/-- The characters of a charset with two octets for each. -/
def chars? (charset : Chinese) (high low : UInt8) : Option (List Char) :=
  let code := Stepwise.codeOf high low
  match charset with
  | standard | inAscii => (standardChar? code).map ([·])
  | extended => (simplifiedTable.char? code).map ([·])
  | full => (fullChar? code).map ([·])
  | common => (traditionalTable.char? code).map ([·])
  | vendor => (vendorChar? code).map ([·])
  | hongKong => hongKongChars? code

def decode (charset : Chinese) (octets : List UInt8) : Option (List Char) :=
  match charset with
  | full => Stepwise.decode fullFront () octets
  | inAscii => Stepwise.decode asciiFront false octets
  | _ => Stepwise.decode (Stepwise.pairFront charset.chars?) () octets

end Chinese

end TypedClient.Text
