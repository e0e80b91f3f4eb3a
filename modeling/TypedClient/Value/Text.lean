import TypedClient.Value.Basic
import TypedClient.Number.Numeral
import TypedClient.Number.Shortest
import TypedClient.Text.Quoted

/-!
The text of a document value, as it enters names, type texts and warnings. A text is its own text;
inside a list or a mapping, and where a warning shows a value, texts stand in quotes. A collection
that stands inside itself is not written out again. A value has no text when one of its integers has too
many digits.
-/

namespace TypedClient

/-- Floating-point numbers are written with the fewest digits that read back, positionally from
10^-4 up to below 10^16, and with an exponent of at least two digits elsewhere. -/
def floatLayout : DecimalLayout where
  positionalFrom := -4
  positionalBelow := 16
  exponentWidth := 2
  infinity := "inf"
  notANumber := "nan"

/-- The comma-separated arguments of a calendar value in parentheses. -/
private def call (name : String) (arguments : List String) : String :=
  name ++ "(" ++ ", ".intercalate arguments ++ ")"

/-- A date as it is shown inside other values. -/
def Date.quoted (date : Date) : String :=
  call "datetime.date" ([date.year, date.month, date.day].map toString)

/-- An offset as it is shown inside other values: whole days, rounded down, and seconds. -/
def Moment.quotedOffset (minutes : Int) : String :=
  if minutes = 0 then "datetime.timezone.utc"
  else
    let seconds := minutes * 60
    let days := seconds / 86400
    let dayPart := if days = 0 then [] else [s!"days={days}"]
    let duration := call "datetime.timedelta" (dayPart ++ [s!"seconds={seconds % 86400}"])
    call "datetime.timezone" [duration]

/-- A moment as it is shown inside other values; seconds and microseconds that are zero at the end
are left out. -/
def Moment.quoted (moment : Moment) : String :=
  let date := moment.date
  let exact := [date.year, date.month, date.day, moment.hour, moment.minute]
  let small :=
    if moment.microsecond ≠ 0 then [moment.second, moment.microsecond]
    else if moment.second ≠ 0 then [moment.second]
    else []
  let offset := (moment.offset.map fun minutes => s!"tzinfo={Moment.quotedOffset minutes}").toList
  call "datetime.datetime" ((exact ++ small).map toString ++ offset)

namespace Value

/-- The least magnitude of an integer that has too many digits to be written. -/
def unwritableFrom : Nat := Nat.pow 10 Numeral.digitLimit

/-- What is written for a collection inside its own text. -/
def ellipsis : Value → String
  | .mapping _ | .set _ => "\x7b...\x7d"
  | .pair .. => "(...)"
  | _ => "[...]"

private def bracketed (opening closing : String) (texts : List String) : String :=
  opening ++ ", ".intercalate texts ++ closing

/-- The text of a value inside other values, with the texts of its members. -/
def quotedBy (inner : Value → Option String) (value : Value) : Option String :=
  match value.opened with
  | .null => some "None"
  | .bool b => some (if b then "True" else "False")
  | .int n => if n.natAbs < unwritableFrom then some (toString n) else none
  | .float x => some (floatLayout.write x)
  | .text s => some (Text.quoted s)
  | .date d => some d.quoted
  | .moment m => some m.quoted
  | .bytes content => some (Text.quotedBytes content)
  | .list items => (items.mapM inner).map (bracketed "[" "]")
  | .mapping entries =>
    (entries.mapM fun (key, value) => do return (← inner key) ++ ": " ++ (← inner value)).map
      (bracketed "\x7b" "\x7d")
  | .set [] => some "set()"
  | .set members => (members.mapM inner).map (bracketed "\x7b" "\x7d")
  | .pair key value => ([key, value].mapM inner).map (bracketed "(" ")")
  | .knot _ => none

/-- The text of a value inside other values, down to so many levels. The collections in `writing` are those
that are being written; they are not written again. -/
def quotedWithin : Nat → List Knot → Value → Option String
  | 0, _, _ => some ""
  | levels + 1, writing, .knot collection =>
    if writing.contains collection then some collection.opened.ellipsis
    else quotedBy (quotedWithin levels (collection :: writing)) collection.opened
  | levels + 1, writing, value => quotedBy (quotedWithin levels writing) value

/-- The text of a value inside other values, if it has one. There are at most as many levels as parts. -/
def quoted? (value : Value) : Option String :=
  quotedWithin (value.parts.length + 1) [] value

/-- The text of a value where a warning shows it. -/
def quoted (value : Value) : String :=
  value.quoted?.getD ""

def isWritable (value : Value) : Bool :=
  value.quoted?.isSome

def kind (value : Value) : String :=
  match value.opened with
  | .null => "NoneType"
  | .bool _ => "bool"
  | .int _ => "int"
  | .float _ => "float"
  | .text _ => "str"
  | .date _ => "datetime.date"
  | .moment _ => "datetime.datetime"
  | .bytes _ => "bytes"
  | .list _ => "list"
  | .mapping _ => "dict"
  | .set _ => "set"
  | .pair .. | .knot _ => "tuple"

def toText : Value → String
  | .text s => s
  | .date d => d.text
  | .moment m => m.text
  | v => v.quoted

end Value

end TypedClient
