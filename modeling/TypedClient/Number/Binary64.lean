/-!
Binary floating-point numbers of 64 bits, held exactly. A finite number is a significand times a
power of two: the significand has 53 bits, or fewer when the exponent is the least one. Every
operation rounds the exact result to the nearest such number, ties going to the even significand.
What is not a number has a payload, which tells one from another.
-/

namespace TypedClient

/-- A 64-bit floating-point number. `finite negative m e` stands for m · 2^e with the sign. -/
inductive Binary64 where
  | finite (negative : Bool) (significand : Nat) (exponent : Int)
  | infinite (negative : Bool)
  | notANumber (payload : Nat)
  deriving DecidableEq, Repr

namespace Binary64

/-- Not a number, with the payload that says nothing. -/
def plainNaN : Binary64 :=
  .notANumber 0

/-- What is not a number gets a payload; numbers stay as they are. -/
def withPayload (payload : Nat) : Binary64 → Binary64
  | .notANumber _ => .notANumber payload
  | x => x

def leastExponent : Int := -1074

def greatestExponent : Int := 971

def signedZero (negative : Bool) : Binary64 :=
  .finite negative 0 leastExponent

/-- The quotient of two naturals, rounded to the nearest natural, ties to even. -/
def roundedQuotient (num den : Nat) : Nat :=
  let below := num / den
  let twice := 2 * (num % den)
  if twice > den ∨ (twice = den ∧ below % 2 = 1) then below + 1 else below

/-- Numerator and denominator of a fraction after division by a power of two. -/
def dividedByPower (num den : Nat) (exponent : Int) : Nat × Nat :=
  match exponent with
  | .ofNat e => (num, den * Nat.pow 2 e)
  | .negSucc e => (num * Nat.pow 2 (e + 1), den)

/-- The exponent at which a positive fraction has a significand of 53 bits. -/
def exponentOf (num den : Nat) : Int :=
  let guess : Int := (num.log2 : Int) - den.log2 - 53
  let (n, d) := dividedByPower num den guess
  max leastExponent (if n / d < Nat.pow 2 53 then guess else guess + 1)

/-- The number nearest to a fraction. -/
def ofFraction (negative : Bool) (num den : Nat) : Binary64 :=
  if num = 0 then signedZero negative
  else
    let exponent := exponentOf num den
    let (n, d) := dividedByPower num den exponent
    let rounded := roundedQuotient n d
    let (significand, exponent) :=
      if rounded = Nat.pow 2 53 then (Nat.pow 2 52, exponent + 1) else (rounded, exponent)
    if exponent > greatestExponent then .infinite negative
    else .finite negative significand exponent

/-- The number nearest to m · 2^e. -/
def ofDyadic (negative : Bool) (significand : Nat) (exponent : Int) : Binary64 :=
  match exponent with
  | .ofNat e => ofFraction negative (significand * Nat.pow 2 e) 1
  | .negSucc e => ofFraction negative significand (Nat.pow 2 (e + 1))

/-- The number nearest to a decimal m · 10^e. A decimal far outside the range is settled by its
order of magnitude alone. -/
def ofDecimal (negative : Bool) (digits : Nat) (exponent : Int) : Binary64 :=
  let magnitude : Int := (Nat.toDigits 10 digits).length + exponent
  if digits = 0 ∨ magnitude < -330 then signedZero negative
  else if magnitude > 310 then .infinite negative
  else
    match exponent with
    | .ofNat e => ofFraction negative (digits * Nat.pow 10 e) 1
    | .negSucc e => ofFraction negative digits (Nat.pow 10 (e + 1))

/-- The number nearest to an integer. -/
def ofInt (n : Int) : Binary64 :=
  ofFraction (n < 0) n.natAbs 1

def negate : Binary64 → Binary64
  | .finite negative m e => .finite (!negative) m e
  | .infinite negative => .infinite (!negative)
  | .notANumber payload => .notANumber payload

/-- The product, rounded. -/
def multiply : Binary64 → Binary64 → Binary64
  | .finite s m e, .finite t n f => ofDyadic (s != t) (m * n) (e + f)
  | .infinite s, .finite t n _ => if n = 0 then plainNaN else .infinite (s != t)
  | .finite s m _, .infinite t => if m = 0 then plainNaN else .infinite (s != t)
  | .infinite s, .infinite t => .infinite (s != t)
  | .notANumber payload, _ | _, .notANumber payload => .notANumber payload

/-- The significand with its sign, scaled to a smaller exponent. -/
private def alignedSignificand (negative : Bool) (significand shift : Nat) : Int :=
  let scaled : Int := (significand * Nat.pow 2 shift : Nat)
  if negative then -scaled else scaled

/-- The sum, rounded. -/
def add : Binary64 → Binary64 → Binary64
  | .finite s m e, .finite t n f =>
    let exponent := min e f
    let sum := alignedSignificand s m (e - exponent).toNat +
      alignedSignificand t n (f - exponent).toNat
    if sum = 0 then signedZero (s && t) else ofDyadic (sum < 0) sum.natAbs exponent
  | .infinite s, .infinite t => if s = t then .infinite s else plainNaN
  | .infinite s, .finite .. => .infinite s
  | .finite .., .infinite t => .infinite t
  | .notANumber payload, _ | _, .notANumber payload => .notANumber payload

def isZero : Binary64 → Bool
  | .finite _ m _ => m == 0
  | _ => false

def toInt? : Binary64 → Option Int
  | .finite negative m (.ofNat e) =>
    let n : Int := (m * Nat.pow 2 e : Nat)
    some (if negative then -n else n)
  | .finite negative m (.negSucc e) =>
    if m % Nat.pow 2 (e + 1) = 0 then
      let n : Int := (m / Nat.pow 2 (e + 1) : Nat)
      some (if negative then -n else n)
    else none
  | _ => none

/-- Two numbers are equal in value: the zeros of either sign are one value. What is not a number is
equal to what has the same payload. -/
def sameValue (x y : Binary64) : Bool :=
  x = y || (x.isZero && y.isZero)

end Binary64

end TypedClient
