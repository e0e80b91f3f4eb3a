import TypedClient.Web.Domain.Characters
import TypedClient.Web.Domain.Composition

/-!
Labels of domain names. A label is composed text of letters, digits, marks and hyphens, starts with
no mark, and keeps to one way of writing; a few characters are allowed only beside certain others.
-/

namespace TypedClient.Domain

inductive LabelFault where
  | malformed
  | disallowed (c : Char)
  | outOfPlace (c : Char)
  | mixedDirections
  deriving DecidableEq, Repr

/-- What is said about a text that is no label. -/
def LabelFault.message : LabelFault → String
  | malformed => "a label of the domain name is not well formed"
  | disallowed c => String.singleton c ++ " is not allowed in a domain name"
  | outOfPlace c => String.singleton c ++ " is not allowed here in a domain name"
  | mixedDirections => "a label of the domain name is written in two directions"

/-! ### Characters beside others -/

/-- A virama, which joins a consonant to the next one. -/
def isVirama (c : Char) : Bool :=
  markClass c.toNat == 9

/-- The way of joining of the first character that joining does not look through. -/
def nextJoining (chars : List Char) : Joining :=
  match chars.dropWhile fun c => joining c == .transparent with
  | [] => .none
  | c :: _ => joining c

/-- A letter that joins what follows stands in front, and one that joins what stands in front of it
follows. -/
def joinsAcross (reversedBefore after : List Char) : Bool :=
  let before := nextJoining reversedBefore
  let behind := nextJoining after
  (before == .toLeft || before == .toBoth) && (behind == .toRight || behind == .toBoth)

def isArabicDigit (c : Char) : Bool :=
  0x660 ≤ c.toNat && c.toNat ≤ 0x669

/-- A digit of Persian or Urdu. -/
def isExtendedArabicDigit (c : Char) : Bool :=
  0x6f0 ≤ c.toNat && c.toNat ≤ 0x6f9

/-- The next character is of a class. -/
def startsWithin (inClass : Char → Bool) (chars : List Char) : Bool :=
  (chars.head?.map inClass).getD false

/-- A character that is allowed only beside certain others has them beside it. -/
def fitsBetween (reversedBefore : List Char) (c : Char) (after : List Char) : Option Bool :=
  if c == '\u200c' then
    some (startsWithin isVirama reversedBefore || joinsAcross reversedBefore after)
  else if c == '\u200d' then some (startsWithin isVirama reversedBefore)
  else if c == '\xb7' then
    some (startsWithin (· == 'l') reversedBefore && startsWithin (· == 'l') after)
  else if c == '\u0375' then some (startsWithin (isWithin greekRanges) after)
  else if c == '\u05f3' || c == '\u05f4' then
    some (startsWithin (isWithin hebrewRanges) reversedBefore)
  else if c == '\u30fb' then
    some ((reversedBefore ++ after).any fun other =>
      other != '\u30fb' && isWithin japaneseRanges other)
  else if isArabicDigit c then some (!(reversedBefore ++ after).any isExtendedArabicDigit)
  else if isExtendedArabicDigit c then some (!(reversedBefore ++ after).any isArabicDigit)
  else none

/-- A character without a shape of its own, which joins its neighbours or keeps them apart. -/
def isJoiner (c : Char) : Bool :=
  c == '\u200c' || c == '\u200d'

/-- Every character is allowed where it stands. -/
def checkCharacters (reversedBefore : List Char) : List Char → Except LabelFault Unit
  | [] => .ok ()
  | c :: rest =>
    if isValid c then checkCharacters (c :: reversedBefore) rest
    else
      match fitsBetween reversedBefore c rest with
      | some true => checkCharacters (c :: reversedBefore) rest
      | some false => .error (if isJoiner c then .malformed else .outOfPlace c)
      | none => .error (.disallowed c)

/-! ### Directions -/

/-- The directions of a label in its last characters, apart from marks. -/
def lastDirection (label : List Char) : Option Direction :=
  ((label.map direction).filter (· != .nonspacing)).getLast?

/-- A label that is written from right to left ends with a letter or a digit and has digits of one
kind. -/
def isRightToLeft (label : List Char) : Bool :=
  let directions := label.map direction
  let last := lastDirection label
  !directions.contains .leftToRight &&
    (last == some .rightToLeft || last == some .arabicNumber || last == some .europeanNumber) &&
    !(directions.contains .arabicNumber && directions.contains .europeanNumber)

/-- A label that is written from left to right ends with a letter or a digit and has none of the
other way. -/
def isLeftToRight (label : List Char) : Bool :=
  let directions := label.map direction
  let last := lastDirection label
  !directions.contains .rightToLeft && !directions.contains .arabicNumber &&
    (last == some .leftToRight || last == some .europeanNumber)

/-- The label keeps to one way of writing. The rules hold only where something is written from right
to left. -/
def keepsDirection (label : List Char) : Bool :=
  let needsRules := label.any fun c =>
    direction c == .rightToLeft || direction c == .arabicNumber
  !needsRules ||
    match label.head?.map direction with
    | some .rightToLeft => isRightToLeft label
    | some .leftToRight => isLeftToRight label
    | _ => false

/-! ### Labels -/

/-- Hyphens stand inside a label, but not in the third and the fourth place. -/
def hasGoodHyphens (label : List Char) : Bool :=
  (label.drop 2).take 2 != ['-', '-'] && label.head? != some '-' && label.getLast? != some '-'

def checkLabel (label : List Char) : Except LabelFault Unit := do
  let isWellFormed := !label.isEmpty && isComposed label && hasGoodHyphens label &&
    !startsWithin (isWithin markRanges) label
  if !isWellFormed then .error .malformed
  checkCharacters [] label
  if !keepsDirection label then .error .mixedDirections

end TypedClient.Domain
