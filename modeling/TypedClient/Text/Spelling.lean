/-!
Texts with halves of surrogate pairs. A half on its own is no character, but a text may hold it. So
texts are spelled: a half as a mark and a character for private use, the mark itself as two marks, and
every other character as itself. Joining texts, cutting them at a character and comparing them go the
same way for the texts and for their spellings; only what counts, prints or encodes code points has to
read the spelling.
-/

namespace TypedClient.Text

/-- A character, or a half of a pair on its own: the first halves come before the second ones. -/
inductive CodePoint where
  | char (c : Char)
  | half (index : Fin 0x800)
  deriving DecidableEq, Repr

/-- The character that starts what is spelled with two. It is reserved and stands for no letter. -/
def spellingMark : Char := '\uffff'

namespace CodePoint

def firstHalf : Nat := 0xd800

/-- The code of the character that a half with the index zero is spelled with. -/
def firstPrivate : Nat := 0xe000

def ofCode (code : Nat) : CodePoint :=
  if isHalf : firstHalf ≤ code ∧ code < firstHalf + 0x800 then
    .half ⟨code - firstHalf, Nat.sub_lt_left_of_lt_add isHalf.1 isHalf.2⟩
  else .char (Char.ofNat code)

def code : CodePoint → Nat
  | char c => c.toNat
  | half index => firstHalf + index

def char? : CodePoint → Option Char
  | char c => some c
  | half _ => none

def spell : CodePoint → List Char
  | char c => if c = spellingMark then [c, c] else [c]
  | half index => [spellingMark, Char.ofNat (firstPrivate + index)]

end CodePoint

/-- The half that a character stands for behind a mark. -/
def halfBehindMark? (c : Char) : Option (Fin 0x800) :=
  let index := c.toNat - CodePoint.firstPrivate
  if isHalf : CodePoint.firstPrivate ≤ c.toNat ∧ index < 0x800 then some ⟨index, isHalf.2⟩ else none

/-- The code points that are spelled. A mark in front of anything else is read as itself. -/
def codePoints : List Char → List CodePoint
  | [] => []
  | [c] => [.char c]
  | c :: d :: rest =>
    if c = spellingMark then
      if d = spellingMark then .char c :: codePoints rest
      else
        match halfBehindMark? d with
        | some index => .half index :: codePoints rest
        | none => .char c :: codePoints (d :: rest)
    else .char c :: codePoints (d :: rest)

/-- The spelling of code points. -/
def spelling (points : List CodePoint) : List Char :=
  points.flatMap CodePoint.spell

/-- The spelling of a text of characters. -/
def spelled (chars : List Char) : List Char :=
  spelling (chars.map .char)

/-- The characters of a text without halves. -/
def plain? (chars : List Char) : Option (List Char) :=
  (codePoints chars).mapM CodePoint.char?

/-- The octet that a mark starts with in UTF-8. -/
def markOctet : UInt8 := 0xef

/-- The octets of a text in UTF-8, which has no halves. A text without marks is spelled as itself. -/
def utf8? (text : String) : Option ByteArray :=
  if text.toUTF8.data.toList.contains markOctet then
    (plain? text.toList).map fun chars => (String.ofList chars).toUTF8
  else some text.toUTF8

end TypedClient.Text
