import TypedClient.Text.Charset.Chinese
import TypedClient.Text.Charset.Japanese
import TypedClient.Text.Charset.Korean

/-!
Charsets of seven bits that switch between sets of characters. An escape sequence puts a set into
one of three slots; the first two slots are in use for a time, the third one for a single character.
-/

namespace TypedClient.Text

inductive CharSet where
  | ascii
  | westEuropean
  | greek
  | roman
  | kana
  | korean
  | chinese
  | japanese
  | supplement
  | extended (edition : JapaneseEdition)
  | secondPlane
  deriving DecidableEq, Repr

inductive Switched where
  | korean
  | japanese
  | japanese1
  | japanese2
  | japanese3
  | japanese2004
  | japaneseExtension
  deriving DecidableEq, Repr

/-- The sets in the slots, and how characters are read. -/
structure SwitchState where
  first : CharSet
  second : CharSet
  third : CharSet
  /-- The second slot is in use. -/
  isShifted : Bool
  /-- An escape sequence that is not known is passed on as text. -/
  isPassing : Bool
  deriving DecidableEq, Repr

namespace Switched

/-- At first all slots hold ASCII. -/
def start : SwitchState :=
  ⟨.ascii, .ascii, .ascii, false, false⟩

/-- A mark of an escape sequence: whether it is one of sets in two octets, and the last octet. -/
abbrev SetMark := Bool × Char

/-- The sets that a charset has besides ASCII, by their marks. -/
def sets : Switched → List (SetMark × CharSet)
  | korean => [((true, 'C'), .korean)]
  | japanese =>
    [((true, 'B'), .japanese), ((true, '@'), .japanese), ((false, 'J'), .roman)]
  | japanese1 =>
    [((true, 'B'), .japanese), ((true, '@'), .japanese), ((false, 'J'), .roman),
      ((true, 'D'), .supplement)]
  | japanese2 =>
    [((true, 'B'), .japanese), ((true, '@'), .japanese), ((false, 'J'), .roman),
      ((true, 'D'), .supplement), ((true, 'C'), .korean), ((true, 'A'), .chinese),
      ((false, 'A'), .westEuropean), ((false, 'F'), .greek)]
  | japanese3 =>
    [((true, 'B'), .japanese), ((true, 'O'), .extended .first), ((true, 'P'), .secondPlane)]
  | japanese2004 =>
    [((true, 'B'), .japanese), ((true, 'Q'), .extended .second), ((true, 'P'), .secondPlane)]
  | japaneseExtension =>
    [((true, 'B'), .japanese), ((true, '@'), .japanese), ((false, 'J'), .roman),
      ((true, 'D'), .supplement), ((false, 'I'), .kana)]

def hasThird (charset : Switched) : Bool :=
  charset = japanese2

/-- The charset has the second slot and octets that switch to it and back. -/
def hasShift (charset : Switched) : Bool :=
  charset = korean

/-- The charset knows the announcement of a revision in front of an escape sequence. -/
def hasRevision (charset : Switched) : Bool :=
  charset ≠ korean

def setOf? (charset : Switched) (mark : SetMark) : Option CharSet :=
  if mark == (false, 'B') then some .ascii else charset.sets.lookup mark

/-! ### Escape sequences -/

def escape : UInt8 := 0x1b

def isEnd (octet : UInt8) : Bool :=
  0x40 ≤ octet && octet ≤ 0x5a

def sequenceLimit : Nat := 16

inductive SequenceEnd where
  | found (length : Nat)
  | tooLong
  | cut

/-- Looks for the end of an escape sequence from a place on. The announcement of a revision has the
sequence itself behind it. -/
def sequenceEnd (charset : Switched) (octets : List UInt8) : Nat → Nat → SequenceEnd
  | 0, _ => .tooLong
  | steps + 1, place =>
    if sequenceLimit ≤ place then .tooLong
    else
      match octets.drop place with
      | [] => .cut
      | octet :: rest =>
        if isEnd octet then .found (place + 1)
        else if charset.hasRevision && octet == 0x26 && rest.head? == some 0x40 then
          sequenceEnd charset octets steps (place + 3)
        else sequenceEnd charset octets steps (place + 1)

inductive Slot where
  | first
  | second
  | third

/-- The slot and the mark of the set that an escape sequence names. -/
def named? (charset : Switched) (sequence : List Char) : Option (Slot × SetMark) :=
  match sequence.drop 1 with
  | ['$', mark] => some (.first, (true, mark))
  | ['(', mark] => some (.first, (false, mark))
  | [')', mark] => some (.second, (false, mark))
  | ['.', mark] => if charset.hasThird then some (.third, (false, mark)) else none
  | ['$', '(', mark] => some (.first, (true, mark))
  | ['$', ')', mark] => some (.second, (true, mark))
  | ['&', '@', '\x1b', '$', 'B'] =>
    if charset.hasRevision then some (.first, (true, 'B')) else none
  | _ => none

def put (state : SwitchState) (slot : Slot) (set : CharSet) : SwitchState :=
  match slot with
  | .first => { state with first := set }
  | .second => { state with second := set }
  | .third => { state with third := set }

def escapeFront (charset : Switched) (state : SwitchState) (octets : List UInt8) :
    Front SwitchState :=
  match sequenceEnd charset octets sequenceLimit 1 with
  | .cut => .start
  | .tooLong => .nothing 1
  | .found length =>
    let sequence := (octets.take length).map fun octet => Char.ofNat octet.toNat
    match named? charset sequence with
    | none => .nothing length
    | some (slot, mark) =>
      match charset.setOf? mark with
      | some set => .text [] length (put state slot set)
      | none => .nothing length

/-! ### Characters -/

/-- The character of a set of Greek for an octet with the highest bit. -/
def greekChar? (octet : Nat) : Option Char :=
  let same := [0xa0, 0xa3, 0xa6, 0xa7, 0xa8, 0xa9, 0xab, 0xac, 0xad, 0xb0, 0xb1, 0xb2, 0xb3, 0xb7,
    0xbb, 0xbd]
  if octet < 0xa0 || same.contains octet then some (Char.ofNat octet)
  else if octet == 0xa1 then some '\u2018'
  else if octet == 0xa2 then some '\u2019'
  else if octet == 0xaf then some '\u2015'
  else if 0xb4 ≤ octet && octet ≤ 0xfe && octet != 0xd2 then some (Char.ofNat (0x2d0 + octet))
  else none

def thirdChar? (set : CharSet) (octet : UInt8) : Option Char :=
  if 0x80 ≤ octet then none
  else
    match set with
    | .westEuropean => some (Char.ofNat (octet.toNat + 0x80))
    | .greek => greekChar? (octet.toNat + 0x80)
    | _ => some (Char.ofNat octet.toNat)

/-- The number of octets of a character of a set. -/
def width : CharSet → Nat
  | .ascii | .westEuropean | .greek | .roman | .kana => 1
  | _ => 2

/-- The code of the tilde in the extended sets. -/
def tildeCode : Nat := 0x2232

/-- The characters of octets in a set. Two sets are for the third slot only. -/
def chars? (set : CharSet) (octets : List UInt8) : Option (List Char) :=
  match set, octets with
  | .ascii, [octet] => some [Char.ofNat octet.toNat]
  | .roman, [octet] => (Japanese.romanChar? octet).map ([·])
  | .kana, [octet] =>
    if octet < 0x80 then (Japanese.kanaChar? (octet + 0x80)).map ([·]) else none
  | set, [high, low] =>
    let code := Stepwise.codeOf high low
    match set with
    | .korean => (koreanTable.char? code).map ([·])
    | .chinese =>
      if high < 0x80 && low < 0x80 then (Chinese.standardChar? (code + 0x8080)).map ([·]) else none
    | .japanese => (Japanese.basicChar? code).map ([·])
    | .supplement => (supplementTable.char? code).map ([·])
    | .extended edition =>
      if code == tildeCode then some ['~'] else Japanese.extendedChars? edition code
    | .secondPlane => (secondPlaneTable.char? code).map ([·])
    | _ => none
  | _, _ => none

/-- What stands in front of octets of a set. -/
def setFront (state : SwitchState) (set : CharSet) (octets : List UInt8) : Front SwitchState :=
  let count := width set
  let own := octets.take count
  if own.length < count then .start
  else
    match chars? set own with
    | some chars => .text chars count state
    | none => .nothing count

def front (charset : Switched) (state : SwitchState) (octets : List UInt8) : Front SwitchState :=
  match octets with
  | [] => .start
  | octet :: rest =>
    let plain (state : SwitchState) : Front SwitchState :=
      .text [Char.ofNat octet.toNat] 1 state
    if state.isPassing then plain { state with isPassing := !isEnd octet }
    else if octet == escape then
      match rest with
      | [] => .start
      | kind :: others =>
        if [0x28, 0x29, 0x24, 0x2e, 0x26].contains kind then escapeFront charset state octets
        else if charset.hasThird && kind == 0x4e then
          match others with
          | [] => .start
          | third :: _ =>
            match thirdChar? state.third third with
            | some char => .text [char] 3 state
            | none => .nothing 3
        else plain { state with isPassing := true }
    else if charset.hasShift && octet == 0x0f then .text [] 1 { state with isShifted := false }
    else if charset.hasShift && octet == 0x0e then .text [] 1 { state with isShifted := true }
    else if octet == 0x0a then plain { state with isShifted := false }
    else if octet < 0x20 then plain state
    else if 0x80 ≤ octet then .nothing 1
    else setFront state (if state.isShifted then state.second else state.first) octets

def decode (charset : Switched) (octets : List UInt8) : Option (List Char) :=
  Stepwise.decode charset.front start octets

end Switched

end TypedClient.Text
