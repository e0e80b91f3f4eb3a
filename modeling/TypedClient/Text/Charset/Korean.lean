import TypedClient.Text.Charset.Stepwise
import TypedClient.Text.Charset.Table.Korean

/-!
Charsets of Korean. The standard has a part of all syllables; one charset writes the others by their
letters, one adds them behind the standard, and one writes every syllable by its letters.
-/

namespace TypedClient.Text

inductive Korean where
  | standard
  | unified
  | byLetters
  deriving DecidableEq, Repr

namespace Korean

def syllable (initial vowel final : Nat) : Char :=
  Char.ofNat (0xac00 + 588 * initial + 28 * vowel + final)

def standardChar? (high low : UInt8) : Option Char := do
  koreanTable.char? (← Stepwise.plainCode? high low)

/-! ### Syllables by their letters, behind a filler -/

/-- The letters of the standard that start a syllable, in their order: one for each octet from the
first letter on, and for other letters nothing. -/
def initialLetters : List (Option Nat) :=
  [some 0, some 1, none, some 2, none, none, some 3, some 4, some 5, none, none, none, none, none,
    none, none, some 6, some 7, some 8, none, some 9, some 10, some 11, some 12, some 13, some 14,
    some 15, some 16, some 17, some 18]

/-- The letters of the standard that end a syllable, in their order. -/
def finalLetters : List (Option Nat) :=
  [some 1, some 2, some 3, some 4, some 5, some 6, some 7, none, some 8, some 9, some 10, some 11,
    some 12, some 13, some 14, some 15, some 16, some 17, none, some 18, some 19, some 20, some 21,
    some 22, none, some 23, some 24, some 25, some 26, some 27]

/-- What stands in a row for an octet that counts from a first one on. -/
def letterAt? (letters : List (Option Nat)) (octet : UInt8) : Option Nat :=
  if octet < 0xa1 then none else (letters[octet.toNat - 0xa1]?).getD none

/-- The octet that stands for no letter. -/
def filler : UInt8 := 0xd4

def ofLetters? (initial vowel final : UInt8) : Option Char := do
  let initial ← letterAt? initialLetters initial
  let vowel ← if 0xbf ≤ vowel && vowel ≤ 0xd3 then some (vowel.toNat - 0xbf) else none
  let final ← if final == filler then some 0 else letterAt? finalLetters final
  return syllable initial vowel final

/-- What stands in front of octets of the standard. Behind a filler, a syllable is written by its
letters, each with the octet of their row in front. -/
def standardFront (state : Unit) (octets : List UInt8) : Front Unit :=
  match octets with
  | 0xa4 :: 0xd4 :: rest =>
    match rest with
    | a :: initial :: b :: vowel :: c :: final :: _ =>
      if a == 0xa4 && b == 0xa4 && c == 0xa4 then
        Stepwise.frontOf () 8 ((ofLetters? initial vowel final).map ([·]))
      else .nothing 1
    | _ => .start
  | _ => Stepwise.pairFront (fun high low => (standardChar? high low).map ([·])) state octets

/-! ### Syllables behind the standard -/

def standardSyllables : List Char :=
  (koreanTable.filter fun run => 0x3021 ≤ run.1 && run.1 ≤ 0x487e).flatMap fun run => run.2.toList

/-- The column of a second octet, which is a letter of ASCII or has the highest bit. -/
def column? (octet : UInt8) : Option Nat :=
  let value := octet.toNat
  if 0x41 ≤ value && value ≤ 0x5a then some (value - 0x41)
  else if 0x61 ≤ value && value ≤ 0x7a then some (value - 0x61 + 26)
  else if 0x81 ≤ value && value ≤ 0xfe then some (value - 0x81 + 52)
  else none

/-- The number of a place that is not in the standard. Rows that the standard uses too are shorter.
-/
def placeNumber? (high low : UInt8) : Option Nat := do
  let column ← column? low
  if 0x81 ≤ high && high ≤ 0xa0 then return (high.toNat - 0x81) * 178 + column
  else if 0xa1 ≤ high && high ≤ 0xc6 && column < 84 then
    return 32 * 178 + (high.toNat - 0xa1) * 84 + column
  else none

def otherSyllableCount : Nat := 8822

/-- The syllable with a number among those that are not in the standard. -/
def otherSyllable? (number : Nat) : Option Char :=
  if number < otherSyllableCount then
    some (Char.ofNat (standardSyllables.foldl (fun code known =>
      if known.toNat ≤ code then code + 1 else code) (0xac00 + number)))
  else none

/-- The character of the charset that adds the other syllables. -/
def unifiedChar? (high low : UInt8) : Option Char :=
  match standardChar? high low with
  | some char => some char
  | none => do otherSyllable? (← placeNumber? high low)

/-! ### Syllables by their letters, five bits for each -/

inductive Letter where
  | missing
  /-- A letter: its number in this part of syllables, and the last digits of its own code point. -/
  | letter (number : Nat) (sign : Nat)

/-- The letters of a part of a syllable: the five bits of the first letter of a run, the number of
that letter, and the code points of the letters alone. -/
abbrev Letters := List (Nat × Nat × List Nat)

/-- Letters that start a syllable. -/
def initials : Letters := [
  (2, 0, [0x31, 0x32, 0x34, 0x37, 0x38, 0x39, 0x41, 0x42, 0x43, 0x45, 0x46, 0x47, 0x48, 0x49, 0x4a,
    0x4b, 0x4c, 0x4d, 0x4e])]

def vowels : Letters := [
  (3, 0, [0x4f, 0x50, 0x51, 0x52, 0x53]), (10, 5, [0x54, 0x55, 0x56, 0x57, 0x58, 0x59]),
  (18, 11, [0x5a, 0x5b, 0x5c, 0x5d, 0x5e, 0x5f]), (26, 17, [0x60, 0x61, 0x62, 0x63])]

/-- Letters that end a syllable. -/
def finals : Letters := [
  (2, 1, [0x31, 0x32, 0x33, 0x34, 0x35, 0x36, 0x37, 0x39, 0x3a, 0x3b, 0x3c, 0x3d, 0x3e, 0x3f, 0x40,
    0x41]),
  (19, 17, [0x42, 0x44, 0x45, 0x46, 0x47, 0x48, 0x4a, 0x4b, 0x4c, 0x4d, 0x4e])]

/-- The letter that five bits stand for. One value stands for a missing letter. -/
def letter? (letters : Letters) (missing bits : Nat) : Option Letter :=
  if bits == missing then some .missing
  else
    letters.findSome? fun (first, number, signs) =>
      if first ≤ bits then
        (signs[bits - first]?).map fun sign => .letter (number + (bits - first)) sign
      else none

/-- The character of three letters. A letter may stand alone. -/
def ofParts? : Letter → Letter → Letter → Option Char
  | .missing, .missing, .missing => some '\u3000'
  | .missing, .missing, .letter _ sign | .missing, .letter _ sign, .missing
  | .letter _ sign, .missing, .missing => some (Char.ofNat (0x3100 + sign))
  | .letter initial _, .letter vowel _, .missing => some (syllable initial vowel 0)
  | .letter initial _, .letter vowel _, .letter final _ => some (syllable initial vowel final)
  | .missing, .letter .., .letter .. | .letter .., .missing, .letter .. => none

/-- The character of the standard that has a place behind the syllables. -/
def signChar? (high low : UInt8) : Option Char :=
  let isUsed := high != 0xdf && high ≤ 0xf9 && 0x31 ≤ low && !(0x80 ≤ low && low < 0x91) &&
    low &&& 0x7f != 0x7f && !(high == 0xda && 0xa1 ≤ low && low ≤ 0xd3)
  if isUsed && 0xd9 ≤ high then
    let row := if high < 0xe0 then 2 * (high.toNat - 0xd9) else 2 * high.toNat - 0x197
    let column := if low < 0x91 then low.toNat - 0x31 else low.toNat - 0x43
    koreanTable.char? (256 * (row + column / 94 + 0x21) + column % 94 + 0x21)
  else none

/-- The character of the charset that writes syllables by their letters. -/
def byLettersChar? (high low : UInt8) : Option Char :=
  if high < 0xd8 then do
    let bits := Stepwise.codeOf high low
    let initial ← letter? initials 1 (bits / 1024 % 32)
    let vowel ← letter? vowels 2 (bits / 32 % 32)
    let final ← letter? finals 1 (bits % 32)
    ofParts? initial vowel final
  else signChar? high low

def decode (charset : Korean) (octets : List UInt8) : Option (List Char) :=
  let pairs (char? : UInt8 → UInt8 → Option Char) : Option (List Char) :=
    Stepwise.decode (Stepwise.pairFront fun high low => (char? high low).map ([·])) () octets
  match charset with
  | standard => Stepwise.decode standardFront () octets
  | unified => pairs unifiedChar?
  | byLetters => pairs byLettersChar?

end Korean

end TypedClient.Text
