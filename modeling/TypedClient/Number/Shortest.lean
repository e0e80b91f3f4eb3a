import TypedClient.Number.Binary64

/-!
The shortest decimal that reads back as a floating-point number. The reals that round to a number
form an interval around it, whose ends belong to it when the significand is even. Of the decimals
with the fewest digits in that interval the nearest one is taken. How the digits are set out is a
separate decision, made by a `DecimalLayout`.
-/

namespace TypedClient

namespace Binary64

/-- The decimal `digits` · 10^`exponent`. -/
structure Decimal where
  digits : Nat
  exponent : Int
  deriving Repr

/-- The interval of reals that round to a positive number, over a common denominator. -/
structure RoundingInterval where
  low : Nat
  centre : Nat
  high : Nat
  denominator : Nat
  closed : Bool

/-- The interval of a number m · 2^e: half a unit to each side, or a quarter below a power of two,
where the numbers lie twice as close. -/
def roundingInterval (significand : Nat) (exponent : Int) : RoundingInterval :=
  let below := if significand = Nat.pow 2 52 ∧ exponent > leastExponent then 1 else 2
  let (factor, denominator) : Nat × Nat :=
    match exponent - 2 with
    | .ofNat e => (Nat.pow 2 e, 1)
    | .negSucc e => (1, Nat.pow 2 (e + 1))
  { low := (4 * significand - below) * factor
    centre := 4 * significand * factor
    high := (4 * significand + 2) * factor
    denominator
    closed := significand % 2 == 0 }

/-- A decimal lies in an interval; `scale` and `unit` are numerator and denominator of its power of
ten. -/
def RoundingInterval.holds (interval : RoundingInterval) (digits scale unit : Nat) : Bool :=
  let value := digits * scale * interval.denominator
  let low := interval.low * unit
  let high := interval.high * unit
  if interval.closed then low ≤ value && value ≤ high else low < value && value < high

/-- The neighbour of the centre on the grid of multiples of 10^`exponent` that lies in the interval;
of two the nearer, and the even one when they are equally near. -/
def RoundingInterval.onGrid? (interval : RoundingInterval) (exponent : Int) : Option Nat :=
  let (scale, unit) : Nat × Nat :=
    match exponent with
    | .ofNat e => (Nat.pow 10 e, 1)
    | .negSucc e => (1, Nat.pow 10 (e + 1))
  let num := interval.centre * unit
  let den := interval.denominator * scale
  let below := num / den
  let twice := 2 * (num % den)
  let lowHolds := interval.holds below scale unit
  let highHolds := interval.holds (below + 1) scale unit
  if lowHolds && highHolds then
    some (if twice < den ∨ (twice = den ∧ below % 2 = 0) then below else below + 1)
  else if lowHolds then some below
  else if highHolds then some (below + 1)
  else none

/-- The greatest power of ten that is not above the centre. -/
def RoundingInterval.magnitude (interval : RoundingInterval) : Int :=
  ((Nat.toDigits 10 (interval.centre * Nat.pow 10 400 / interval.denominator)).length : Int) - 401

/-- The shortest decimal that reads back as m · 2^e, for a positive m. Seventeen digits always
suffice. -/
def shortest (significand : Nat) (exponent : Int) : Decimal :=
  let interval := roundingInterval significand exponent
  let magnitude := interval.magnitude
  let found := (List.range 18).findSome? fun (count : Nat) =>
    let gridExponent := magnitude - count
    (interval.onGrid? gridExponent).map fun digits => Decimal.mk digits gridExponent
  found.getD ⟨0, 0⟩

end Binary64

/-- How the digits of a decimal are set out. -/
structure DecimalLayout where
  /-- The least decimal exponent that is written without an exponent. -/
  positionalFrom : Int
  /-- The decimal exponent from which on an exponent is written. -/
  positionalBelow : Int
  /-- The least number of digits of a written exponent. -/
  exponentWidth : Nat
  infinity : String
  notANumber : String

namespace DecimalLayout

/-- The digits with a point behind the first `whole` of them, zeros filling up on either side; at
least one digit stands on each side of the point. -/
def pointed (digits : List Char) (whole : Int) : List Char :=
  if whole ≤ 0 then '0' :: '.' :: (List.replicate (-whole).toNat '0' ++ digits)
  else
    let fill := List.replicate (whole.toNat - digits.length) '0'
    let padded := digits ++ fill
    let fraction := padded.drop whole.toNat
    padded.take whole.toNat ++ '.' :: (if fraction.isEmpty then ['0'] else fraction)

/-- The first digit, a point and the others if there are any, and the exponent with its sign. -/
def scientific (layout : DecimalLayout) (digits : List Char) (exponent : Int) : List Char :=
  let mantissa :=
    match digits with
    | first :: second :: rest => first :: '.' :: second :: rest
    | _ => digits
  let exponentDigits := Nat.toDigits 10 exponent.natAbs
  mantissa ++ 'e' :: (if exponent < 0 then '-' else '+') ::
    (List.replicate (layout.exponentWidth - exponentDigits.length) '0' ++ exponentDigits)

def write (layout : DecimalLayout) : Binary64 → String
  | .notANumber _ => layout.notANumber
  | .infinite negative => (if negative then "-" else "") ++ layout.infinity
  | .finite negative significand exponent =>
    let decimal := if significand = 0 then ⟨0, 0⟩ else Binary64.shortest significand exponent
    let all := Nat.toDigits 10 decimal.digits
    let magnitude := (all.length : Int) - 1 + decimal.exponent
    let trimmed := (all.reverse.dropWhile (· == '0')).reverse
    let digits := if trimmed.isEmpty then ['0'] else trimmed
    let body :=
      if layout.positionalFrom ≤ magnitude ∧ magnitude < layout.positionalBelow then
        pointed digits (magnitude + 1)
      else layout.scientific digits magnitude
    String.ofList (if negative then '-' :: body else body)

end DecimalLayout

end TypedClient
