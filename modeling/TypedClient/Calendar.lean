/-!
Dates and moments of the proleptic Gregorian calendar, from year 1 to year 9999. A moment may know
its offset from universal time; two such moments are equal when they are the same instant.
-/

namespace TypedClient

structure Date where
  year : Nat
  month : Nat
  day : Nat
  deriving DecidableEq, Repr

/-- A date and a time of day; the offset counts minutes east of universal time. -/
structure Moment where
  date : Date
  hour : Nat
  minute : Nat
  second : Nat
  microsecond : Nat
  offset : Option Int
  deriving DecidableEq, Repr

namespace Calendar

/-- Every fourth year has a leap day, except centuries that are no multiple of 400. -/
def isLeapYear (year : Nat) : Bool :=
  year % 4 == 0 && (year % 100 != 0 || year % 400 == 0)

def daysInMonth (year month : Nat) : Nat :=
  match month with
  | 2 => if isLeapYear year then 29 else 28
  | 4 | 6 | 9 | 11 => 30
  | _ => 31

def daysBeforeYear (year : Nat) : Nat :=
  let past := year - 1
  past * 365 + past / 4 - past / 100 + past / 400

/-- A number in decimal digits, with zeros in front up to a width. -/
def padded (width n : Nat) : String :=
  let digits := toString n
  String.ofList (List.replicate (width - digits.length) '0') ++ digits

end Calendar

namespace Date

/-- The date, if the calendar has it. -/
def of? (year month day : Nat) : Option Date :=
  if 1 ≤ year ∧ year ≤ 9999 ∧ 1 ≤ month ∧ month ≤ 12 ∧ 1 ≤ day ∧
      day ≤ Calendar.daysInMonth year month then
    some ⟨year, month, day⟩
  else none

def dayNumber (date : Date) : Nat :=
  let months := (List.range (date.month - 1)).map fun past =>
    Calendar.daysInMonth date.year (past + 1)
  Calendar.daysBeforeYear date.year + months.foldr (· + ·) 0 + date.day

/-- Year, month and day, joined by hyphens. -/
def text (date : Date) : String :=
  s!"{Calendar.padded 4 date.year}-{Calendar.padded 2 date.month}-{Calendar.padded 2 date.day}"

end Date

namespace Moment

/-- The moment, if the calendar and the clock have it; an offset is shorter than a day. -/
def of? (date : Date) (hour minute second microsecond : Nat) (offset : Option Int) :
    Option Moment :=
  let shortOffset := (offset.map fun minutes => decide (minutes.natAbs < 24 * 60)).getD true
  if hour < 24 ∧ minute < 60 ∧ second < 60 ∧ microsecond < 1000000 ∧ shortOffset then
    some ⟨date, hour, minute, second, microsecond, offset⟩
  else none

/-- Microseconds from the first moment of the calendar, in universal time when the offset is
known. -/
def instant (moment : Moment) : Int :=
  let minutes : Int := (moment.date.dayNumber * 24 + moment.hour) * 60 + moment.minute
  ((minutes - moment.offset.getD 0) * 60 + moment.second) * 1000000 + moment.microsecond

/-- Two moments are equal when both or neither know their offset and they are one instant. -/
def same (a b : Moment) : Bool :=
  a.offset.isSome == b.offset.isSome && a.instant == b.instant

/-- The sign, hours and minutes of an offset. -/
def offsetText (minutes : Int) : String :=
  let size := minutes.natAbs
  let sign := if minutes < 0 then "-" else "+"
  s!"{sign}{Calendar.padded 2 (size / 60)}:{Calendar.padded 2 (size % 60)}"

/-- Date, time and offset; the fraction of a second stands only when there is one. -/
def text (moment : Moment) : String :=
  let time := ":".intercalate
    ([moment.hour, moment.minute, moment.second].map (Calendar.padded 2))
  let fraction :=
    if moment.microsecond = 0 then "" else s!".{Calendar.padded 6 moment.microsecond}"
  let offset := (moment.offset.map offsetText).getD ""
  s!"{moment.date.text} {time}{fraction}{offset}"

end Moment

end TypedClient
