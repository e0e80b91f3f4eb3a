import TypedClient.Text.Charset.Utf8

/-!
Octets as text in units of two or of four octets. What is no character gives one replacement
character for a unit, and what is left behind the last unit gives one too.
-/

namespace TypedClient.Text

/-- The order of the octets in a unit. -/
inductive OctetOrder where
  | lowFirst
  | highFirst
  deriving DecidableEq, Repr

namespace OctetOrder

def value (order : OctetOrder) (octets : List UInt8) : Nat :=
  let highFirst :=
    match order with
    | .highFirst => octets
    | .lowFirst => octets.reverse
  highFirst.foldl (fun value octet => 256 * value + octet.toNat) 0

end OctetOrder

namespace Utf16

/-- The units of octets, and whether one octet is left. -/
def units (order : OctetOrder) : List UInt8 → List Nat × Bool
  | first :: second :: rest =>
    let (values, isLeft) := units order rest
    (order.value [first, second] :: values, isLeft)
  | rest => ([], !rest.isEmpty)

def isHigh (unit : Nat) : Bool :=
  0xd800 ≤ unit && unit ≤ 0xdbff

def isLow (unit : Nat) : Bool :=
  0xdc00 ≤ unit && unit ≤ 0xdfff

/-- The text of units behind the first half of a pair, if there is one. An octet that is left
belongs to a first half in front of it. -/
def ofUnits (isLeft : Bool) : Option Nat → List Nat → List Char
  | none, [] => if isLeft then [replacement] else []
  | some _, [] => [replacement]
  | none, unit :: rest =>
    if isHigh unit then ofUnits isLeft (some unit) rest
    else (if isLow unit then replacement else Char.ofNat unit) :: ofUnits isLeft none rest
  | some high, unit :: rest =>
    if isLow unit then
      Char.ofNat (0x10000 + 0x400 * (high - 0xd800) + (unit - 0xdc00)) :: ofUnits isLeft none rest
    else
      replacement ::
        if isHigh unit then ofUnits isLeft (some unit) rest
        else Char.ofNat unit :: ofUnits isLeft none rest

def decode (order : OctetOrder) (octets : List UInt8) : List Char :=
  let (values, isLeft) := units order octets
  ofUnits isLeft none values

end Utf16

namespace Utf32

def decode (order : OctetOrder) : List UInt8 → List Char
  | a :: b :: c :: d :: rest =>
    let code := order.value [a, b, c, d]
    (if code.isValidChar then Char.ofNat code else replacement) :: decode order rest
  | [] => []
  | _ => [replacement]

end Utf32

end TypedClient.Text
