/-!
Bytes written to the base 64, four digits for three bytes. Characters that are no digits do not
count. Padding ends the text as soon as it fills up a group that has at least two digits; without
it the last group has to be full.
-/

namespace TypedClient.Text.Base64

def digits : List Char :=
  "ABCDEFGHIJKLMNOPQRSTUVWXYZabcdefghijklmnopqrstuvwxyz0123456789+/".toList

def digitValue? (c : Char) : Option Nat :=
  digits.idxOf? c

/-- Bytes read so far and the group of digits that is open. -/
structure Reading where
  /-- The bytes read so far, the last one first. -/
  reversed : List UInt8
  /-- The number of digits in the open group. -/
  count : Nat
  /-- The bits of the open group that are in no byte yet. -/
  bits : Nat
  /-- The number of padding marks behind the open group. -/
  padding : Nat

namespace Reading

def empty : Reading :=
  ⟨[], 0, 0, 0⟩

/-- Takes in a digit. The first digit of a group completes no byte. -/
def add (reading : Reading) (digit : Nat) : Reading :=
  let bits := 64 * reading.bits + digit
  match reading.count with
  | 0 => ⟨reading.reversed, 1, bits, 0⟩
  | 1 => ⟨UInt8.ofNat (bits / 16) :: reading.reversed, 2, bits % 16, 0⟩
  | 2 => ⟨UInt8.ofNat (bits / 4) :: reading.reversed, 3, bits % 4, 0⟩
  | _ => ⟨UInt8.ofNat bits :: reading.reversed, 0, 0, 0⟩

/-- Takes in a padding mark, which counts only behind two digits of a group. -/
def pad (reading : Reading) : Reading :=
  if 2 ≤ reading.count then { reading with padding := reading.padding + 1 } else reading

/-- The padding fills up the open group. -/
def isFilled (reading : Reading) : Bool :=
  2 ≤ reading.count && 4 ≤ reading.count + reading.padding

end Reading

def decodeFrom (reading : Reading) : List Char → Option (List UInt8)
  | [] => if reading.count = 0 then some reading.reversed.reverse else none
  | c :: rest =>
    if c = '=' then
      let padded := reading.pad
      if padded.isFilled then some padded.reversed.reverse else decodeFrom padded rest
    else
      match digitValue? c with
      | some digit => decodeFrom (reading.add digit) rest
      | none => decodeFrom reading rest

/-- The bytes that a text stands for. -/
def decode? (text : String) : Option (List UInt8) :=
  decodeFrom .empty text.toList

end TypedClient.Text.Base64
