import TypedClient.Text.Charset.Stepwise
import TypedClient.Text.Charset.Table.Japanese

/-!
Charsets of Japanese. The standards have the characters in rows of 94; some charsets set the highest
bit of both octets, and some shift the rows, to have room for a syllabary in one octet.
-/

namespace TypedClient.Text

inductive JapaneseEdition where
  | first
  | second
  deriving DecidableEq, Repr

inductive Japanese where
  | shifted
  | vendor
  | shiftedExtended (edition : JapaneseEdition)
  | plain
  | plainExtended (edition : JapaneseEdition)
  deriving DecidableEq, Repr

namespace Japanese

/-! ### Standards -/

def basicChar? (code : Nat) : Option Char :=
  japaneseTable.char? code

/-- Codes that only the second edition has. -/
def secondEditionCodes : List Nat :=
  [0x2e21, 0x2f7e, 0x4f54, 0x4f7e, 0x7427, 0x7e7a, 0x7e7b, 0x7e7c, 0x7e7d, 0x7e7e]

/-- The characters of the extended standard. The first edition leaves the places of the second one
open. -/
def extendedChars? (edition : JapaneseEdition) (code : Nat) : Option (List Char) :=
  if edition = .first && secondEditionCodes.contains code then some [replacement]
  else
    match extensionPairs.lookup code with
    | some chars => some chars
    | none =>
      match extensionTable.char? code with
      | some char => some [char]
      | none => (basicChar? code).map ([·])

/-- The character of the second plane of the extended standard. The editions differ in one. -/
def secondPlaneChar? (edition : JapaneseEdition) (code : Nat) : Option Char :=
  if edition = .first && code == 0x7d3b then some '\u9b1d' else secondPlaneTable.char? code

/-- The character of the syllabary in one octet. -/
def kanaChar? (octet : UInt8) : Option Char :=
  if 0xa1 ≤ octet && octet ≤ 0xdf then some (Char.ofNat (0xfec0 + octet.toNat)) else none

/-- The character of the letters in one octet, which are ASCII but for two. -/
def romanChar? (octet : UInt8) : Option Char :=
  if octet == 0x5c then some '\xa5'
  else if octet == 0x7e then some '\u203e'
  else if octet < 0x80 then some (Char.ofNat octet.toNat)
  else none

/-! ### Shifted rows -/

/-- The row, from 0 on, and the column, from 21 in hexadecimal on, of a character in shifted rows.
A first octet stands for two rows. -/
def unshift? (high low : UInt8) : Option (Nat × Nat) :=
  if low < 0x40 || low == 0x7f || 0xfc < low then none
  else
    let pair := if high < 0xe0 then high.toNat - 0x81 else high.toNat - 0xc1
    let column := if low < 0x80 then low.toNat - 0x40 else low.toNat - 0x41
    some (2 * pair + column / 94, column % 94 + 0x21)

/-- The rows of the second plane in their order behind the first plane. -/
def secondPlaneRow (row : Nat) : Nat :=
  if 0x67 ≤ row then row + 0x07
  else if 0x63 ≤ row || row == 0x5f then row - 0x37
  else row - 0x3d

def rowCount : Nat := 0x5e

/-- The character of the basic standard in shifted rows. -/
def shiftedChar? (high low : UInt8) : Option Char := do
  let (row, column) ← unshift? high low
  if row < rowCount then basicChar? (256 * (row + 0x21) + column) else none

/-- The character of one vendor: its own ones, those of the basic standard, and places for users. -/
def vendorChar? (high low : UInt8) : Option Char :=
  match vendorJapaneseTable.char? (Stepwise.codeOf high low) with
  | some char => some char
  | none =>
    if high ≤ 0x9f || (0xe0 ≤ high && high ≤ 0xea) then shiftedChar? high low
    else if 0xf0 ≤ high && high ≤ 0xf9 then do
      let (row, column) ← unshift? high low
      return Char.ofNat (0xe000 + 94 * (row - 0x5e) + (column - 0x21))
    else none

/-- The characters of the extended standard where ASCII has no octets for the backslash and the
tilde: two signs are these. -/
def extendedCharsFor? (edition : JapaneseEdition) (code : Nat) : Option (List Char) :=
  if code == 0x2140 then some ['\\']
  else if code == 0x2232 then some ['~']
  else extendedChars? edition code

def shiftedExtendedChars? (edition : JapaneseEdition) (high low : UInt8) :
    Option (List Char) := do
  let (row, column) ← unshift? high low
  if row < rowCount then
    extendedCharsFor? edition (256 * (row + 0x21) + column)
  else (secondPlaneChar? edition (256 * secondPlaneRow row + column)).map ([·])

/-- What stands in front of octets in shifted rows, with the character of one octet, if it is one.
-/
def shiftedFront (single? : UInt8 → Option Char) (pair? : UInt8 → UInt8 → Option (List Char))
    (_ : Unit) : List UInt8 → Front Unit
  | [] => .start
  | high :: rest =>
    match single? high with
    | some char => .text [char] 1 ()
    | none =>
      if high ≤ 0x80 || high == 0xa0 || 0xfc < high then .nothing 1
      else
        match rest with
        | [] => .start
        | low :: _ => Stepwise.frontOf () 2 (pair? high low)

def asciiOrKana? (octet : UInt8) : Option Char :=
  if octet < 0x80 then some (Char.ofNat octet.toNat) else kanaChar? octet

/-- A character of the letters or of the syllabary. -/
def romanOrKana? (octet : UInt8) : Option Char :=
  if octet < 0x80 then romanChar? octet else kanaChar? octet

/-- A character of one octet with one vendor. A few octets that are in no use have places for users.
-/
def vendorSingle? (octet : UInt8) : Option Char :=
  if octet == 0x80 then some '\x80'
  else if octet == 0xa0 then some '\uf8f0'
  else if 0xfd ≤ octet then some (Char.ofNat (0xf8f1 + (octet.toNat - 0xfd)))
  else asciiOrKana? octet

/-! ### Plain rows -/

/-- What stands in front of octets in plain rows. One octet announces the syllabary, and one the
second plane. -/
def plainFront (first? second? : Nat → Option (List Char)) (state : Unit) (octets : List UInt8) :
    Front Unit :=
  match octets with
  | 0x8e :: rest =>
    match rest with
    | [] => .start
    | kana :: _ => Stepwise.frontOf () 2 ((kanaChar? kana).map ([·]))
  | 0x8f :: rest =>
    match rest with
    | high :: low :: _ =>
      Stepwise.frontOf () 3 ((Stepwise.plainCode? high low).bind second?)
    | _ => .start
  | _ =>
    Stepwise.pairFront (fun high low => (Stepwise.plainCode? high low).bind first?) state octets

/-- The character of the second plane, or else of the supplementary standard. -/
def secondOrSupplement? (edition : JapaneseEdition) (code : Nat) : Option (List Char) :=
  match secondPlaneChar? edition code with
  | some char => some [char]
  | none => (supplementTable.char? code).map ([·])

/-! ### All charsets -/

def front (charset : Japanese) : Unit → List UInt8 → Front Unit :=
  match charset with
  | shifted => shiftedFront asciiOrKana? fun high low => (shiftedChar? high low).map ([·])
  | vendor => shiftedFront vendorSingle? fun high low => (vendorChar? high low).map ([·])
  | shiftedExtended edition => shiftedFront romanOrKana? (shiftedExtendedChars? edition)
  | plain =>
    plainFront (fun code => (basicChar? code).map ([·])) fun code =>
      (supplementTable.char? code).map ([·])
  | plainExtended edition => plainFront (extendedChars? edition) (secondOrSupplement? edition)

def decode (charset : Japanese) (octets : List UInt8) : Option (List Char) :=
  Stepwise.decode charset.front () octets

end Japanese

end TypedClient.Text
