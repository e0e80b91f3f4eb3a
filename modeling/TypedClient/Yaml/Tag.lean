import TypedClient.Text.Pieces
import TypedClient.Yaml.Stamp

namespace TypedClient.Yaml

inductive Tag where
  | null
  | truth
  | integer
  | float
  | text
  | stamp
  | binary
  | sequence
  | mapping
  | set
  /-- A sequence of entries with different keys. -/
  | orderedMapping
  /-- A sequence of entries. -/
  | pairs
  /-- The key that takes in the entries of other mappings. -/
  | merge
  /-- The key of the value that stands for a mapping as a whole. -/
  | value
  | other (name : String)
  deriving DecidableEq, Repr

namespace Tag

def known : List (String × Tag) :=
  [("null", .null), ("bool", .truth), ("int", .integer), ("float", .float), ("str", .text),
    ("timestamp", .stamp), ("binary", .binary), ("seq", .sequence), ("map", .mapping),
    ("set", .set), ("omap", .orderedMapping), ("pairs", .pairs), ("merge", .merge),
    ("value", .value)]

/-- What stands in front of the names of the core schema. -/
def coreMark : String := "tag:yaml.org,2002:"

def name : Tag → String
  | .other name => name
  | tag => ((known.find? fun entry => entry.2 = tag).map fun entry => coreMark ++ entry.1).getD ""

def ofName (name : String) : Tag :=
  ((known.find? fun entry => coreMark ++ entry.1 = name).map (·.2)).getD (.other name)

/-! ### Forms of plain scalars -/

/-- Nothing, or one of the words for it. -/
def isNull (word : String) : Bool :=
  ["", "~", "null", "Null", "NULL"].contains word

/-- A word for true or false in one of three cases. -/
def isTruth (word : String) : Bool :=
  ["yes", "Yes", "YES", "no", "No", "NO", "true", "True", "TRUE", "false", "False", "FALSE",
    "on", "On", "ON", "off", "Off", "OFF"].contains word

/-- A digit or an underscore. -/
def isPlace (c : Char) : Bool :=
  c.isDigit || c == '_'

def isHexadecimal (c : Char) : Bool :=
  c.isDigit || ('a' ≤ c && c ≤ 'f') || ('A' ≤ c && c ≤ 'F')

/-- A digit and then digits and underscores. -/
def isDigitRun : List Char → Bool
  | c :: rest => c.isDigit && rest.all isPlace
  | [] => false

/-- A number from 0 to 59 behind a colon, in one or two digits. -/
def isSixtieth : List Char → Bool
  | [c] => c.isDigit
  | [tens, ones] => '0' ≤ tens && tens ≤ '5' && ones.isDigit
  | _ => false

/-- A number to the base 60: a run of digits and at least one more place behind a colon. -/
def isSexagesimal (chars : List Char) : Bool :=
  match Text.piecesBy (· == ':') chars with
  | first :: second :: others => isDigitRun first && (second :: others).all isSixtieth
  | _ => false

/-- An integer: decimal, to the base 60, or with the mark of the base 2, 8 or 16. -/
def isInteger (chars : List Char) : Bool :=
  match (Numeral.splitSign chars).2 with
  | ['0'] => true
  | '0' :: 'b' :: places => !places.isEmpty && places.all fun c => c == '0' || c == '1' || c == '_'
  | '0' :: 'x' :: places => !places.isEmpty && places.all fun c => isHexadecimal c || c == '_'
  | '0' :: places => places.all fun c => ('0' ≤ c && c ≤ '7') || c == '_'
  | body => isDigitRun body || isSexagesimal body

/-- An exponent with its sign, or nothing. -/
def isExponent : List Char → Bool
  | [] => true
  | mark :: sign :: digits =>
    (mark == 'e' || mark == 'E') && (sign == '+' || sign == '-') && !digits.isEmpty &&
      digits.all Char.isDigit
  | _ => false

/-- A number with a point. Without digits in front of the point it has no sign, unless it is
infinite. -/
def isFloat (chars : List Char) : Bool :=
  let hasSign := chars.head? == some '+' || chars.head? == some '-'
  let body := (Numeral.splitSign chars).2
  let whole := body.takeWhile (· != '.')
  match body.dropWhile (· != '.') with
  | [] => false
  | _ :: fraction =>
    let places := fraction.dropWhile isPlace
    if whole.isEmpty then
      let word := String.ofList fraction
      ["inf", "Inf", "INF"].contains word || (!hasSign && ["nan", "NaN", "NAN"].contains word) ||
        (!hasSign && (fraction.head?.map Char.isDigit).getD false && isExponent places)
    else
      (isDigitRun whole && isExponent places) || (isSexagesimal whole && places.isEmpty)

/-- A date or a moment. -/
def isStamp (chars : List Char) : Bool :=
  ((Stamp.read? chars).map Stamp.isPlainDate).getD false

/-- One of the indicators that no plain scalar starts with. They have a tag of their own. -/
def isIndicator (word : String) : Bool :=
  ["!", "&", "*"].contains word

def ofForm (text : String) : Tag :=
  let chars := text.toList
  if isTruth text then .truth
  else if isFloat chars then .float
  else if isInteger chars then .integer
  else if text = "<<" then .merge
  else if isNull text then .null
  else if isStamp chars then .stamp
  else if text = "=" then .value
  else if isIndicator text then .other (coreMark ++ "yaml")
  else .text

/-- A line end behind a text does not count for its form, unless it is the whole text. -/
def dropLineEnd (text : String) : String :=
  match text.toList.reverse with
  | '\n' :: last :: rest => String.ofList (last :: rest).reverse
  | _ => text

/-- The tag of a scalar: the one that is written, or the one of its form. A scalar in quotes is a
text, unless a lone exclamation mark asks for its form. -/
def ofScalar (written : Option String) (text : String) (isPlain : Bool) : Tag :=
  match written with
  | some "!" => ofForm (dropLineEnd text)
  | some name => ofName name
  | none => if isPlain then ofForm text else .text

/-- The tag of a collection: the one that is written, or the one of its kind. -/
def ofCollection (written : Option String) (kind : Tag) : Tag :=
  match written with
  | some "!" | none => kind
  | some name => ofName name

end Tag

end TypedClient.Yaml
