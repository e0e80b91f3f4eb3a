/-!
Octets as UTF-8 text. What is no character gives one replacement character for the longest start of
a character that it is, or for one octet.
-/

namespace TypedClient.Text

/-- What stands for octets that are no text. -/
def replacement : Char := '\ufffd'

namespace Utf8

/-- The start of a character: how many octets are missing, what those before are worth, and between
which bounds the next one lies. -/
structure Start where
  missing : Nat
  code : Nat
  least : Nat
  most : Nat

/-- The start of a character of several octets. The bounds leave out characters that fewer octets
could hold, halves of pairs, and what lies behind the last code point. -/
def start? (octet : Nat) : Option Start :=
  if 0xc2 ≤ octet && octet ≤ 0xdf then some ⟨1, octet - 0xc0, 0x80, 0xbf⟩
  else if octet == 0xe0 then some ⟨2, 0, 0xa0, 0xbf⟩
  else if octet == 0xed then some ⟨2, 0xd, 0x80, 0x9f⟩
  else if 0xe1 ≤ octet && octet ≤ 0xef then some ⟨2, octet - 0xe0, 0x80, 0xbf⟩
  else if octet == 0xf0 then some ⟨3, 0, 0x90, 0xbf⟩
  else if 0xf1 ≤ octet && octet ≤ 0xf3 then some ⟨3, octet - 0xf0, 0x80, 0xbf⟩
  else if octet == 0xf4 then some ⟨3, 4, 0x80, 0x8f⟩
  else none

/-- What an octet in front of a character gives: a character, or the start of one. -/
def first (octet : Nat) : List Char × Option Start :=
  if octet < 0x80 then ([Char.ofNat octet], none)
  else
    match start? octet with
    | some start => ([], some start)
    | none => ([replacement], none)

/-- What the next octet gives behind the start of a character. -/
def next (start : Start) (octet : Nat) : List Char × Option Start :=
  if start.least ≤ octet && octet ≤ start.most then
    let code := 64 * start.code + (octet - 0x80)
    if start.missing ≤ 1 then ([Char.ofNat code], none)
    else ([], some ⟨start.missing - 1, code, 0x80, 0xbf⟩)
  else
    let (chars, started) := first octet
    (replacement :: chars, started)

/-- Decodes octets behind the start of a character, if there is one. -/
def decodeFrom (started : Option Start) : List UInt8 → List Char
  | [] => if started.isSome then [replacement] else []
  | octet :: rest =>
    let (chars, started) :=
      match started with
      | some start => next start octet.toNat
      | none => first octet.toNat
    chars ++ decodeFrom started rest

def decode (octets : List UInt8) : List Char :=
  decodeFrom none octets

/-- The octets in front of a text that mark it. -/
def mark : List UInt8 :=
  [0xef, 0xbb, 0xbf]

/-- The text of octets without the mark in front of it. A part of the mark alone is no text. -/
def decodeMarked (octets : List UInt8) : List Char :=
  if octets.length < mark.length && octets.isPrefixOf mark then []
  else if mark.isPrefixOf octets then decode (octets.drop mark.length)
  else decode octets

end Utf8

end TypedClient.Text
