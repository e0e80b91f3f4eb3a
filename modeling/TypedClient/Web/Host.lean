import TypedClient.Text.Case
import TypedClient.Text.Pieces
import TypedClient.Web.Domain.Name
import TypedClient.Web.Percent

namespace TypedClient.Host

/-- A decimal number below 256 without a zero in front. -/
def isOctet (digits : List Char) : Bool :=
  !digits.isEmpty && digits.length ≤ 3 && digits.all Char.isDigit &&
    (digits == ['0'] || digits.head? != some '0') &&
    digits.foldl (fun value c => 10 * value + (c.toNat - '0'.toNat)) 0 < 256

def isVersion4 (text : List Char) : Bool :=
  let octets := Text.piecesBy (· == '.') text
  octets.length == 4 && octets.all isOctet

/-- The progress of reading four runs of digits with one character between each: even in front of
the first digit of a run, odd behind it. -/
def quadSteps (state : Nat) (c : Char) : List Nat :=
  if state % 2 = 0 then (if c.isDigit then [state + 1] else [])
  else (if c.isDigit then [state] else []) ++ (if state < 7 then [state + 1] else [])

/-- Four runs of digits with any character between each. -/
def looksLikeVersion4 (text : List Char) : Bool :=
  (text.foldl (fun states c => (states.flatMap (quadSteps · c)).eraseDups) [0]).contains 7

/-- Up to four hexadecimal digits. -/
def isGroup (digits : List Char) : Bool :=
  !digits.isEmpty && digits.length ≤ 4 && digits.all fun c => (Percent.digitValue? c).isSome

/-- The groups of an address of version 6. An address of version 4 at the end takes the place of two
of them. -/
def groupsOf? (text : List Char) : Option (List (List Char)) :=
  let groups := Text.piecesBy (· == ':') text
  match groups.getLast? with
  | some last =>
    if groups.length < 3 then none
    else if last.contains '.' then
      if isVersion4 last then some (groups.dropLast ++ [['0'], ['0']]) else none
    else some groups
  | none => none

/-- Takes an empty group from the front of a text that starts with a gap, which leaves one more. -/
def trimGap : List (List Char) → List (List Char)
  | [] :: [] :: rest => [] :: rest
  | groups => groups

/-- Groups with one gap in them stand for at least one group more. -/
def haveGap (groups : List (List Char)) : Bool :=
  let trimmed := (trimGap (trimGap groups).reverse).reverse
  let before := trimmed.takeWhile fun group => !group.isEmpty
  let behind := (trimmed.dropWhile fun group => !group.isEmpty).drop 1
  before.all isGroup && behind.all isGroup && before.length + behind.length ≤ 7

/-- Eight groups, or fewer with one gap, which is written as two colons. -/
def areGroups (groups : List (List Char)) : Bool :=
  if (groups.drop 1).dropLast.contains [] then haveGap groups
  else groups.length == 8 && groups.all isGroup

/-- A numeric address of version 6, perhaps with the name of a zone behind a percent sign. -/
def isVersion6 (text : List Char) : Bool :=
  let address := text.takeWhile (· != '%')
  let isZoned :=
    match text.dropWhile (· != '%') with
    | [] => true
    | _ :: zone => !zone.isEmpty && !zone.contains '%'
  isZoned && !text.contains '/' && ((groupsOf? address).map areGroups).getD false

/-- The text between square brackets, if a text stands in them. -/
def bracketed? (text : List Char) : Option (List Char) :=
  match text with
  | '[' :: rest => if rest.getLast? == some ']' then some rest.dropLast else none
  | _ => none

def normal? (text : List Char) : Option (List Char) :=
  if text.isEmpty then some []
  else if looksLikeVersion4 text then if isVersion4 text then some text else none
  else
    match bracketed? text with
    | some address => if isVersion6 address then some address else none
    | none =>
      let small := Text.lower text
      if Domain.isAscii text then some (Percent.encode .host small)
      else (Domain.encode small).toOption

/-- A host as it stands in an address. -/
def written (host : List Char) : List Char :=
  if host.contains ':' then '[' :: host ++ [']'] else host

end TypedClient.Host
