import TypedClient.Text.Base64
import TypedClient.Yaml.Error
import TypedClient.Yaml.Tag

namespace TypedClient.Yaml.Scalar

def truthWords : List (String × Bool) :=
  [("yes", true), ("no", false), ("true", true), ("false", false), ("on", true), ("off", false)]

/-- The value of a word for true or false, in any case. -/
def truth (text : String) : Except Fault Atom :=
  match truthWords.lookup (String.ofList (text.toList.map Char.toLower)) with
  | some b => .ok (.bool b)
  | none => .error (.misfit .notTruthValue)

def dropUnderscores (text : String) : List Char :=
  text.toList.filter (· != '_')

/-- The value of places to the base 60, the highest first. -/
def integerOfSixtieths (places : List Int) : Int :=
  places.foldl (fun value place => 60 * value + place) 0

/-- An integer without its sign. -/
def magnitude? (digits : List Char) : Option Int :=
  match digits with
  | ['0'] => some 0
  | '0' :: 'b' :: places => Numeral.readInt? 2 places
  | '0' :: 'x' :: places => Numeral.readInt? 16 places
  | '0' :: _ => Numeral.readInt? 8 digits
  | _ =>
    if digits.contains ':' then
      ((Text.piecesBy (· == ':') digits).mapM (Numeral.readInt? 10)).map integerOfSixtieths
    else Numeral.readInt? 10 digits

def integer (text : String) : Except Fault Atom :=
  let (negative, digits) := Numeral.splitSign (dropUnderscores text)
  if digits.isEmpty then .error (.misfit .emptyNumber)
  else
    match magnitude? digits with
    | some n => .ok (.int (if negative then -n else n))
    | none => .error (.misfit .notNumber)

/-- The sum of places to the base 60, the lowest first, each times the weight of its place. A weight
may leave the range of the numbers. -/
def sumOfSixtieths (sum : Binary64) (weight : Nat) : List Binary64 → Except Fault Binary64
  | [] => .ok sum
  | place :: places =>
    match Binary64.ofInt weight with
    | .infinite _ => .error (.misfit .numberTooLarge)
    | factor => sumOfSixtieths (sum.add (place.multiply factor)) (weight * 60) places

def isNotANumber (digits : List Char) : Bool :=
  String.ofList (digits.map Char.toLower) == ".nan"

/-- A number with a point, without its sign. -/
def floatMagnitude (digits : List Char) : Except Fault Binary64 :=
  if String.ofList (digits.map Char.toLower) = ".inf" then .ok (.infinite false)
  else if isNotANumber digits then .ok .plainNaN
  else if digits.contains ':' then
    match (Text.piecesBy (· == ':') digits).mapM Numeral.readFloat? with
    | some places => sumOfSixtieths (Binary64.signedZero false) 1 places.reverse
    | none => .error (.misfit .notNumber)
  else
    match Numeral.readFloat? digits with
    | some x => .ok x
    | none => .error (.misfit .notNumber)

/-- The value of a number with a point. A scalar that is no number, but is not spelled like one, is
different from all others; so it is marked with its place. -/
def float (place : Nat) (text : String) : Except Fault Atom :=
  let chars := dropUnderscores text
  let (negative, digits) := Numeral.splitSign chars
  if chars.isEmpty then .error (.misfit .emptyNumber)
  else do
    let x ← floatMagnitude digits
    let marked := if isNotANumber digits then x else x.withPayload (place + 1)
    return .float (if negative then marked.negate else marked)

def stamp (text : String) : Except Fault Atom :=
  match Stamp.read? (Tag.dropLineEnd text).toList with
  | none => .error (.misfit .notDate)
  | some written =>
    match written.value? with
    | some value => .ok value
    | none => .error (.misfit .noSuchDate)

def binary (text : String) : Except Fault Atom :=
  if text.toList.all fun c => c.toNat < 0x80 then
    match Text.Base64.decode? text with
    | some content => .ok (.bytes content)
    | none => .error (.malformed .notBinary)
  else .error (.malformed .notBinary)

/-- The value of a scalar with a tag that stands at a place. -/
def value (place : Nat) (tag : Tag) (text : String) : Except Fault Atom :=
  match tag with
  | .null => .ok .null
  | .truth => truth text
  | .integer => integer text
  | .float => float place text
  | .text => .ok (.text text)
  | .stamp => stamp text
  | .binary => binary text
  | .sequence | .mapping | .set | .orderedMapping | .pairs =>
    .error (.malformed (.wrongKind tag.name))
  | .merge | .value | .other _ => .error (.malformed (.unknownTag tag.name))

end TypedClient.Yaml.Scalar
