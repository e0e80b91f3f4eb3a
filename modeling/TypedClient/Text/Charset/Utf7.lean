import TypedClient.Text.Base64
import TypedClient.Text.Charset.Wide
import TypedClient.Text.Spelling

/-!
Octets as text in which ASCII stands for itself. Other characters are written to the base 64 as
units of two octets, between a plus sign and a hyphen or another character that is no digit. A half of
a pair may stand alone, so the characters spell the text.
-/

namespace TypedClient.Text.Utf7

/-- A run of digits that is being read. -/
structure Run where
  /-- The number of bits that are in no unit yet. -/
  count : Nat
  bits : Nat
  /-- The first half of a pair in front of them. -/
  high : Option Nat

inductive Place where
  | plain
  /-- Behind a plus sign. -/
  | opened
  | inRun (run : Run)

/-- What a unit gives. -/
def Run.take (run : Run) (unit : Nat) : List Char × Option Nat :=
  match run.high with
  | some high =>
    let alone := CodePoint.ofCode high
    if Utf16.isLow unit then
      (spelled [Char.ofNat (0x10000 + 0x400 * (high - 0xd800) + (unit - 0xdc00))], none)
    else if Utf16.isHigh unit then (alone.spell, some unit)
    else (spelling [alone, .ofCode unit], none)
  | none =>
    if Utf16.isHigh unit then ([], some unit) else ((CodePoint.ofCode unit).spell, none)

/-- What one more digit gives. -/
def Run.add (run : Run) (digit : Nat) : List Char × Run :=
  let bits := 64 * run.bits + digit
  let count := run.count + 6
  if 16 ≤ count then
    let rest := count - 16
    let (chars, high) := run.take (bits / Nat.pow 2 rest)
    (chars, ⟨rest, bits % Nat.pow 2 rest, high⟩)
  else ([], ⟨count, bits, run.high⟩)

/-- The run may end here: what is left is less than a digit, and zero. -/
def Run.isComplete (run : Run) : Bool :=
  run.count < 6 && run.bits == 0

/-- What an octet outside of runs gives. -/
def plainStep (octet : Nat) : List Char × Place :=
  if octet == 0x2b then ([], .opened)
  else ([if octet < 0x80 then Char.ofNat octet else replacement], .plain)

/-- What an octet gives that is no digit and ends a run. A hyphen belongs to the run; another
character stands for itself, unless the run breaks off in front of it. -/
def closingStep (run : Run) (octet : Nat) : List Char × Place :=
  if !run.isComplete then ([replacement], .plain)
  else
    let alone :=
      match run.high with
      | some high => if octet < 0x80 && octet != 0x2b then (CodePoint.ofCode high).spell else []
      | none => []
    if octet == 0x2d then (alone, .plain)
    else
      let (chars, place) := plainStep octet
      (alone ++ chars, place)

def step (place : Place) (octet : Nat) : List Char × Place :=
  let digit? := if octet < 0x80 then Base64.digitValue? (Char.ofNat octet) else none
  match place, digit? with
  | .plain, _ => plainStep octet
  | .opened, some digit => ([], .inRun ⟨6, digit, none⟩)
  | .opened, none => ([if octet == 0x2d then '+' else replacement], .plain)
  | .inRun run, some digit =>
    let (chars, run) := run.add digit
    (chars, .inRun run)
  | .inRun run, none => closingStep run octet

def decodeFrom (place : Place) : List UInt8 → List Char
  | [] =>
    match place with
    | .inRun run => if run.isComplete && run.high.isNone then [] else [replacement]
    | _ => []
  | octet :: rest =>
    let (chars, place) := step place octet.toNat
    chars ++ decodeFrom place rest

def decode (octets : List UInt8) : List Char :=
  decodeFrom .plain octets

end TypedClient.Text.Utf7
