import TypedClient.Text.Pieces
import TypedClient.Text.Punycode
import TypedClient.Web.Domain.Label

namespace TypedClient.Domain

/-- What stands in front of the ASCII form of a label. -/
def asciiMark : List Char :=
  ['x', 'n', '-', '-']

def isDot (c : Char) : Bool :=
  c == '.' || c == '\u3002' || c == '\uff0e' || c == '\uff61'

def isAscii (chars : List Char) : Bool :=
  chars.all fun c => c.toNat < 0x80

def decodeLabel (written : List Char) : Except LabelFault (List Char) := do
  let label := written.map Char.toLower
  if asciiMark.isPrefixOf label then
    let numbers := label.drop asciiMark.length
    if numbers.isEmpty || numbers.getLast? == some '-' then .error .malformed
    match Text.Punycode.decode? numbers >>= (·.mapM Text.CodePoint.char?) with
    | some decoded =>
      checkLabel decoded
      return decoded
    | none => .error .malformed
  else
    checkLabel label
    return label

def encodeLabel (label : List Char) : Except LabelFault (List Char) := do
  let encoded ←
    if isAscii label then (decodeLabel label).map fun _ => label
    else (checkLabel label).map fun _ => asciiMark ++ Text.Punycode.encode label
  if encoded.length > 63 then .error .malformed
  return encoded

/-- The labels of a name, and whether a dot stands behind them. -/
def labelsOf (name : List Char) : List (List Char) × Bool :=
  let labels := Text.piecesBy isDot name
  if labels.getLast? == some [] then (labels.dropLast, true) else (labels, false)

/-- The text of labels, with a dot behind them if there was one. -/
def ofLabels (labels : List (List Char)) (hasLastDot : Bool) : List Char :=
  List.intercalate ['.'] (if hasLastDot then labels ++ [[]] else labels)

/-- The most characters of a name, without the dot behind it. -/
def nameLimit : Nat := 253

/-- The ASCII form of a name. -/
def encode (name : List Char) : Except LabelFault (List Char) := do
  let (labels, hasLastDot) := labelsOf name
  if labels.isEmpty then .error .malformed
  let encoded := ofLabels (← labels.mapM encodeLabel) hasLastDot
  if encoded.length > nameLimit + hasLastDot.toNat then .error .malformed
  return encoded

def decode (written : List Char) : Except LabelFault (List Char) := do
  if written.length > nameLimit + 1 then .error .malformed
  let (labels, hasLastDot) := labelsOf written
  if labels.isEmpty then .error .malformed
  return ofLabels (← labels.mapM decodeLabel) hasLastDot

end TypedClient.Domain
