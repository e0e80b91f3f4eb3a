import TypedClient.Text.Charset.Utf8

/-!
Charsets in which characters have several octets. Octets are read from the front; what they stand
for may depend on a state, which those before have left. Octets that stand for nothing give one
replacement character, and so does the start of something longer at the end.
-/

namespace TypedClient.Text

/-- What stands in front of octets. -/
inductive Front (σ : Type) where
  /-- Some octets stand for characters, and leave a state. -/
  | text (chars : List Char) (count : Nat) (state : σ)
  /-- Some octets stand for nothing. -/
  | nothing (count : Nat)
  /-- The octets are the start of something longer. -/
  | start

namespace Stepwise

/-- The most octets that wait for what is behind them. -/
def waitingLimit : Nat := 8

/-- The text of octets. Every step takes one octet at least. There is no text where too many octets
wait at the end. -/
def decodeFrom {σ : Type} (front : σ → List UInt8 → Front σ) :
    Nat → σ → List UInt8 → Option (List Char)
  | 0, _, _ => some []
  | steps + 1, state, octets =>
    if octets.isEmpty then some []
    else
      match front state octets with
      | .text chars count next =>
        (decodeFrom front steps next (octets.drop count)).map (chars ++ ·)
      | .nothing count =>
        (decodeFrom front steps state (octets.drop count)).map (replacement :: ·)
      | .start => if octets.length ≤ waitingLimit then some [replacement] else none

def decode {σ : Type} (front : σ → List UInt8 → Front σ) (state : σ) (octets : List UInt8) :
    Option (List Char) :=
  decodeFrom front octets.length state octets

def codeOf (high low : UInt8) : Nat :=
  256 * high.toNat + low.toNat

/-- The code of two octets without their highest bits, if these are set. -/
def plainCode? (high low : UInt8) : Option Nat :=
  if high < 0x80 || low < 0x80 then none else some (codeOf (high - 0x80) (low - 0x80))

/-- What a number of octets stands for, or else the first of them for nothing. -/
def frontOf {σ : Type} (state : σ) (count : Nat) (chars : Option (List Char)) : Front σ :=
  match chars with
  | some chars => .text chars count state
  | none => .nothing 1

/-- A charset that has ASCII, and other characters in two octets. -/
def pairFront (chars? : UInt8 → UInt8 → Option (List Char)) (_ : Unit) :
    List UInt8 → Front Unit
  | [] => .start
  | high :: rest =>
    if high < 0x80 then .text [Char.ofNat high.toNat] 1 ()
    else
      match rest with
      | [] => .start
      | low :: _ => frontOf () 2 (chars? high low)

end Stepwise

end TypedClient.Text
