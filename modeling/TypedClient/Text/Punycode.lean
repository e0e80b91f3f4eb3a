import TypedClient.Text.Spelling

/-!
Labels of any characters written in ASCII. The ASCII characters of a label stand in front; behind
the last hyphen, numbers say which other characters go where. The numbers are written with 36
digits, the lowest place first; a digit below the threshold of its place is the last one of its
number. The thresholds adapt to the numbers before.
-/

namespace TypedClient.Text.Punycode

/-- The threshold of a place, counted from one, under a bias. -/
def threshold (place bias : Nat) : Nat :=
  min 26 (max 1 (36 * place - bias))

/-- Divides a number until it is small, and counts the places that this takes off. -/
def shrink (number places : Nat) : Nat × Nat :=
  if 455 < number then shrink (number / 35) (places + 36) else (number, places)
termination_by number
decreasing_by omega

/-- The bias behind a number: small when the numbers are small. The first number of a label is far
larger than the others. -/
def adapt (number count : Nat) (isFirst : Bool) : Nat :=
  let damped := if isFirst then number / 700 else number / 2
  let (small, places) := shrink (damped + damped / count) 0
  places + 36 * small / (small + 38)

/-! ### Writing -/

def digitChar (digit : Nat) : Char :=
  if digit < 26 then Char.ofNat ('a'.toNat + digit) else Char.ofNat ('0'.toNat + digit - 26)

/-- The digits of a number from a place on. -/
def digitsFrom (bias place number : Nat) : List Char :=
  let least := threshold place bias
  if number < least then [digitChar number]
  else
    let rest := number - least
    digitChar (least + rest % (36 - least)) :: digitsFrom bias (place + 1) (rest / (36 - least))
termination_by number
decreasing_by
  have : 1 ≤ threshold place bias := by unfold threshold; omega
  have : threshold place bias ≤ 26 := by unfold threshold; omega
  exact Nat.lt_of_le_of_lt (Nat.div_le_self _ _) (by omega)

structure Writing where
  output : List Char
  /-- The number of places that were gone past since the last character. -/
  number : Nat
  bias : Nat
  /-- The characters that are written. -/
  count : Nat
  isFirst : Bool

/-- Goes past a character of a label, or writes it if it is the one in turn. -/
def Writing.pass (turn : Nat) (writing : Writing) (c : Char) : Writing :=
  if c.toNat < turn then { writing with number := writing.number + 1 }
  else if c.toNat = turn then
    { output := writing.output ++ digitsFrom writing.bias 1 writing.number
      number := 0
      bias := adapt writing.number (writing.count + 1) writing.isFirst
      count := writing.count + 1
      isFirst := false }
  else writing

/-- Writes the characters that are in turn, from the lowest on. A turn goes past all places of a
label, as does every code point in between. -/
def writeTurns (label : List Char) (next : Nat) (writing : Writing) : List Nat → Writing
  | [] => writing
  | turn :: turns =>
    let skipped := { writing with number := writing.number + (turn - next) * (writing.count + 1) }
    let written := label.foldl (Writing.pass turn) skipped
    writeTurns label (turn + 1) { written with number := written.number + 1 } turns

def encode (label : List Char) : List Char :=
  let plain := label.filter fun c => c.toNat < 0x80
  let others := (label.filter fun c => 0x80 ≤ c.toNat).map Char.toNat
  let turns := (others.mergeSort (· ≤ ·)).eraseDups
  let written := writeTurns label 0x80 ⟨[], 0, 72, plain.length, true⟩ turns
  (if plain.isEmpty then [] else plain ++ ['-']) ++ written.output

/-! ### Reading -/

def digitValue? (c : Char) : Option Nat :=
  if 'a' ≤ c && c ≤ 'z' then some (c.toNat - 'a'.toNat)
  else if 'A' ≤ c && c ≤ 'Z' then some (c.toNat - 'A'.toNat)
  else if '0' ≤ c && c ≤ '9' then some (c.toNat - '0'.toNat + 26)
  else none

/-- A label that is being read. A half of a pair may stand alone in it. -/
structure Reading where
  label : List CodePoint
  /-- The place behind the last character that was put in. -/
  place : Nat
  code : Nat
  bias : Nat
  isFirst : Bool

def lastCode : Nat := 0x10ffff

/-- The code of what lies a number of places further. -/
def Reading.codeAt (reading : Reading) (number : Nat) : Nat :=
  reading.code + (reading.place + number) / (reading.label.length + 1)

/-- Puts in a code point, a number of places further. -/
def Reading.put (reading : Reading) (number code : Nat) : Reading :=
  let size := reading.label.length + 1
  let place := (reading.place + number) % size
  { label := reading.label.insertIdx place (.ofCode code)
    place := place + 1
    code
    bias := adapt number size reading.isFirst
    isFirst := false }

/-- Puts in the code point that lies a number of places further, if there is one. -/
def Reading.put? (reading : Reading) (number : Nat) : Option Reading :=
  let code := reading.codeAt number
  if code ≤ lastCode then some (reading.put number code) else none

/-- Reads the numbers of the characters. In the middle of a number, `value` is what its digits are
worth so far and `weight` what the next one counts for; `position` is its place. -/
def readNumbers (reading : Reading) (position value weight : Nat) : List Char → Option Reading
  | [] => if position = 1 then some reading else none
  | c :: rest => do
    let digit ← digitValue? c
    let least := threshold position reading.bias
    let value := value + digit * weight
    if digit < least then readNumbers (← reading.put? value) 1 0 1 rest
    else readNumbers reading (position + 1) value (weight * (36 - least)) rest

/-- A label of which nothing but the ASCII characters is read. -/
def Reading.ofPlain (plain : List Char) : Reading :=
  ⟨plain.map .char, 0, 0x80, 72, true⟩

/-- The ASCII characters and the numbers of a label: what stands in front of the last hyphen and
behind it. -/
def cut {α : Type} [BEq α] (hyphen : α) (written : List α) : List α × List α :=
  let numbers := (written.reverse.takeWhile (· != hyphen)).reverse
  ((written.take (written.length - numbers.length)).dropLast, numbers)

def decode? (written : List Char) : Option (List CodePoint) := do
  let (plain, numbers) := cut '-' written
  return (← readNumbers (.ofPlain plain) 1 0 1 numbers).label

/-! ### Reading as far as possible -/

/-- Puts in a code point, and a question mark in place of one that lies behind the last. -/
def Reading.putAny (reading : Reading) (number : Nat) : Reading :=
  let code := reading.codeAt number
  reading.put number (if code ≤ lastCode then code else '?'.toNat)

/-- Reads the numbers of the characters up to one that is not well formed. -/
def readGoodNumbers (reading : Reading) (position value weight : Nat) : List Char → Reading
  | [] => reading
  | c :: rest =>
    match digitValue? c with
    | none => reading
    | some digit =>
      let least := threshold position reading.bias
      let value := value + digit * weight
      if digit < least then readGoodNumbers (reading.putAny value) 1 0 1 rest
      else readGoodNumbers reading (position + 1) value (weight * (36 - least)) rest

/-- What can be read of the ASCII form of a label in ASCII characters and numbers. -/
def decodeAny (plain numbers : List Char) : List CodePoint :=
  (readGoodNumbers (.ofPlain plain) 1 0 1 numbers).label

end TypedClient.Text.Punycode
