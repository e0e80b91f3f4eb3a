import TypedClient.Text.Charset.Utf8
import TypedClient.Text.Character
import TypedClient.Text.Spelling

/-!
Text in which a backslash escapes characters: by a letter, or by the number of a code point. Other
octets stand for the code points with their numbers. The shorter way to escape has code points of
four and of eight digits only. Halves of pairs stay alone, so the characters spell the text.
-/

namespace TypedClient.Text.Escaped

/-- What stands behind a backslash: characters, or nothing that has a meaning, and how many octets
belong to it. -/
structure Escape where
  chars : Option (List Char)
  count : Nat

def digitIn? (base : Nat) (octet : UInt8) : Option Nat :=
  if octet < 0x80 then digitValueIn? base (Char.ofNat octet.toNat) else none

/-- The digits in front of octets, up to a number of them, and their value. -/
def takeDigits (base : Nat) : Nat → List UInt8 → List Nat
  | 0, _ | _, [] => []
  | count + 1, octet :: rest =>
    match digitIn? base octet with
    | some digit => digit :: takeDigits base count rest
    | none => []

def valueOf (base : Nat) (digits : List Nat) : Nat :=
  digits.foldl (fun value digit => base * value + digit) 0

/-- A code point that is written with a number of hexadecimal digits. -/
def ofHexadecimal (count : Nat) (octets : List UInt8) : Escape :=
  let digits := takeDigits 16 count octets
  let value := valueOf 16 digits
  if digits.length < count || 0x10ffff < value then ⟨none, 1 + digits.length⟩
  else ⟨some (CodePoint.ofCode value).spell, 1 + count⟩

/-- A code point that is written with up to three octal digits. -/
def ofOctal (octets : List UInt8) : Escape :=
  let digits := takeDigits 8 3 octets
  ⟨some [Char.ofNat (valueOf 8 digits)], digits.length⟩

/-- The name of a character in braces. No names are known. -/
def ofName (octets : List UInt8) : Escape :=
  match octets with
  | 0x7b :: rest =>
    let name := rest.takeWhile (· != 0x7d)
    let closing := if name.isEmpty || name.length = rest.length then 0 else 1
    ⟨none, 2 + name.length + closing⟩
  | _ => ⟨none, 1⟩

def signs : List (Char × List Char) := [
  ('\n', []), ('\\', ['\\']), ('\x27', ['\x27']), ('"', ['"']), ('b', ['\x08']), ('f', ['\x0c']),
  ('t', ['\t']), ('n', ['\n']), ('r', ['\r']), ('v', ['\x0b']), ('a', ['\x07'])]

/-- What stands behind a backslash. A character without a meaning leaves the backslash. -/
def escapeOf (isShort : Bool) : List UInt8 → Escape
  | [] => ⟨if isShort then some ['\\'] else none, 0⟩
  | octet :: rest =>
    let char := Char.ofNat octet.toNat
    let unchanged : Escape := ⟨some ['\\', char], 1⟩
    if char == 'u' then ofHexadecimal 4 rest
    else if char == 'U' then ofHexadecimal 8 rest
    else if isShort then unchanged
    else if char == 'x' then ofHexadecimal 2 rest
    else if char == 'N' then ofName rest
    else if (digitIn? 8 octet).isSome then ofOctal (octet :: rest)
    else
      match signs.lookup char with
      | some chars => ⟨some chars, 1⟩
      | none => unchanged

/-- The text of octets. Every step takes one octet at least. -/
def decodeFrom (isShort : Bool) : Nat → List UInt8 → List Char
  | 0, _ | _, [] => []
  | steps + 1, octet :: rest =>
    if octet == 0x5c then
      let escape := escapeOf isShort rest
      escape.chars.getD [replacement] ++ decodeFrom isShort steps (rest.drop escape.count)
    else Char.ofNat octet.toNat :: decodeFrom isShort steps rest

def decode (isShort : Bool) (octets : List UInt8) : List Char :=
  decodeFrom isShort octets.length octets

end TypedClient.Text.Escaped
