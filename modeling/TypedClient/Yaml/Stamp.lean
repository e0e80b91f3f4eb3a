import TypedClient.Number.Numeral
import TypedClient.Value.Basic

namespace TypedClient.Yaml

/-- A time of day as it is written, in digits. The offset counts minutes. -/
structure ClockStamp where
  hour : List Char
  minute : List Char
  second : List Char
  fraction : List Char
  offset : Option Int

/-- A date as it is written, in digits, perhaps with a time of day. -/
structure Stamp where
  year : List Char
  month : List Char
  day : List Char
  clock : Option ClockStamp

namespace Stamp

/-- Takes as many digits as there are, up to a most and from a least. -/
def digits? (least most : Nat) (chars : List Char) : Option (List Char × List Char) :=
  let digits := (chars.take most).takeWhile Char.isDigit
  if digits.length < least then none else some (digits, chars.drop digits.length)

/-- Takes a character of a class and then digits. -/
def after? (mark : Char) (least most : Nat) : List Char → Option (List Char × List Char)
  | c :: rest => if c = mark then digits? least most rest else none
  | [] => none

def number (digits : List Char) : Nat :=
  Numeral.ofDigits 10 (digits.map fun c => c.toNat - '0'.toNat)

/-- A space or a tab. -/
def isGap (c : Char) : Bool :=
  c == ' ' || c == '\t'

/-- The offset behind a time of day, which ends the text. -/
def readOffset? : List Char → Option (Option Int)
  | [] => some none
  | ['Z'] => some (some 0)
  | sign :: rest => do
    if sign ≠ '+' ∧ sign ≠ '-' then none
    let (hours, rest) ← digits? 1 2 rest
    let (minutes, rest) ← if rest.isEmpty then some ([], []) else after? ':' 2 2 rest
    if !rest.isEmpty then none
    let size : Int := number hours * 60 + number minutes
    return some (if sign = '-' then -size else size)

/-- The fraction of a second, if there is one, and what follows it. -/
def spanFraction : List Char → List Char × List Char
  | '.' :: rest => (rest.takeWhile Char.isDigit, rest.dropWhile Char.isDigit)
  | rest => ([], rest)

/-- The time of day, which ends the text. -/
def readClock? (chars : List Char) : Option ClockStamp := do
  let (hour, rest) ← digits? 1 2 chars
  let (minute, rest) ← after? ':' 2 2 rest
  let (second, rest) ← after? ':' 2 2 rest
  let (fraction, rest) := spanFraction rest
  let offset ← match rest with
    | [] => some none
    | _ =>
      let zone := rest.dropWhile isGap
      if zone.isEmpty then none else readOffset? zone
  return ⟨hour, minute, second, fraction, offset⟩

/-- What stands between a date and a time of day: a `T` in either case, or spaces and tabs. -/
def dropClockMark? : List Char → Option (List Char)
  | 'T' :: rest | 't' :: rest => some rest
  | c :: rest => if isGap c then some (rest.dropWhile isGap) else none
  | [] => none

def read? (chars : List Char) : Option Stamp := do
  let (year, rest) ← digits? 4 4 chars
  let (month, rest) ← after? '-' 1 2 rest
  let (day, rest) ← after? '-' 1 2 rest
  if rest.isEmpty then
    return ⟨year, month, day, none⟩
  else
    let clock ← readClock? (← dropClockMark? rest)
    return ⟨year, month, day, some clock⟩

/-- Without a mark, only a date with two digits for month and day is taken for one; a moment may
have fewer. -/
def isPlainDate (stamp : Stamp) : Bool :=
  stamp.clock.isSome || (stamp.month.length == 2 && stamp.day.length == 2)

/-- Microseconds: the first six places of a fraction. -/
def microseconds (fraction : List Char) : Nat :=
  number ((fraction ++ List.replicate 6 '0').take 6)

/-- The date or moment, if the calendar has it. -/
def value? (stamp : Stamp) : Option Atom := do
  let date ← Date.of? (number stamp.year) (number stamp.month) (number stamp.day)
  match stamp.clock with
  | none => return .date date
  | some clock =>
    let moment ← Moment.of? date (number clock.hour) (number clock.minute) (number clock.second)
      (microseconds clock.fraction) clock.offset
    return .moment moment

end Stamp

end TypedClient.Yaml
