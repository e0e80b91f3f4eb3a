import TypedClient.Number.Binary64
import TypedClient.Text.Character

/-!
Numerals as people write them: blanks around them do not count, a sign may come first, the digits
may be of any script, and one underscore may stand between two digits.
-/

namespace TypedClient.Numeral

/-- The most digits that a decimal integer may have. -/
def digitLimit : Nat := 4300

/-- The sign in front of a numeral and what follows it; without a sign it is positive. -/
def splitSign : List Char → Bool × List Char
  | '-' :: rest => (true, rest)
  | '+' :: rest => (false, rest)
  | rest => (false, rest)

/-- The values of digits among which single underscores may stand. `afterDigit` tells whether an
underscore may come next. -/
def digitRun? (base : Nat) (afterDigit : Bool) : List Char → Option (List Nat)
  | [] => if afterDigit then some [] else none
  | '_' :: rest => if afterDigit then digitRun? base false rest else none
  | c :: rest =>
    match Text.digitValueIn? base c, digitRun? base true rest with
    | some value, some values => some (value :: values)
    | _, _ => none

def ofDigits (base : Nat) (digits : List Nat) : Nat :=
  digits.foldl (fun value digit => base * value + digit) 0

/-- The letters that announce a base after a leading zero. -/
def baseLetters : Nat → List Char
  | 2 => ['b', 'B']
  | 8 => ['o', 'O']
  | 16 => ['x', 'X']
  | _ => []

/-- Drops an announcement of the base, with the underscore that may follow it. -/
def dropBaseMark (base : Nat) : List Char → List Char
  | '0' :: letter :: rest =>
    if (baseLetters base).contains letter then
      match rest with
      | '_' :: rest => rest
      | _ => rest
    else '0' :: letter :: rest
  | rest => rest

/-- The integer that a numeral stands for in a base. Decimal numerals have a limited length. -/
def readInt? (base : Nat) (chars : List Char) : Option Int := do
  let (negative, digits) := splitSign (Text.trimBy Text.isNumeralBlank chars)
  let values ← digitRun? base false (dropBaseMark base digits)
  if base = 10 ∧ values.length > digitLimit then none
  let n : Int := ofDigits base values
  return if negative then -n else n

/-- Decimal digits at the front and what follows them. -/
def spanDigits : List Char → List Nat × List Char
  | [] => ([], [])
  | c :: rest =>
    match Text.digitValue? c with
    | some value =>
      let (values, rest) := spanDigits rest
      (value :: values, rest)
    | none => ([], c :: rest)

/-- The exponent part of a decimal, if the text is one; no text is the exponent zero. -/
def readExponent? : List Char → Option Int
  | [] => some 0
  | mark :: rest =>
    if mark = 'e' ∨ mark = 'E' then
      let (negative, digits) := splitSign rest
      match spanDigits digits with
      | (values@(_ :: _), []) =>
        let n : Int := ofDigits 10 values
        some (if negative then -n else n)
      | _ => none
    else none

/-- The number nearest to an unsigned decimal with an optional fraction and exponent. -/
def readUnsigned? (negative : Bool) (chars : List Char) : Option Binary64 := do
  let (whole, rest) := spanDigits chars
  let (fraction, rest) :=
    match rest with
    | '.' :: rest => spanDigits rest
    | rest => ([], rest)
  if whole.isEmpty ∧ fraction.isEmpty then none
  let exponent ← readExponent? rest
  return .ofDecimal negative (ofDigits 10 (whole ++ fraction)) (exponent - fraction.length)

/-- The number that a decimal numeral or a name of a special number stands for. -/
def readFloat? (chars : List Char) : Option Binary64 :=
  let (negative, body) := splitSign (Text.trimBy Text.isNumeralBlank chars)
  let word := String.ofList (body.map Char.toLower)
  if word = "inf" ∨ word = "infinity" then some (.infinite negative)
  else if word = "nan" then some .plainNaN
  else readUnsigned? negative body

end TypedClient.Numeral
