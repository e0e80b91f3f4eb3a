/-!
Parts of an address as they are sent: characters that a part cannot hold are replaced by the octets
of their text, each as a percent sign and two hexadecimal digits. What is escaped already stays.
-/

namespace TypedClient.Percent

/-- Parts of an address that differ in the characters they hold. -/
inductive Part where
  | owner
  | host
  | path
  | query
  | fragment
  deriving DecidableEq, Repr

/-- The visible characters and the space that a part does not hold. -/
def Part.refused : Part → List Char
  | .fragment => " \"<>\x60".toList
  | .query => " \"#<>".toList
  | .path => " \"#<>?\x60\x7b\x7d".toList
  | .owner => " \"#<>?\x60\x7b\x7d/;=@[\\]^|".toList
  | .host => " #/:<>?@[]^".toList

def Part.holds (part : Part) (c : Char) : Bool :=
  0x20 ≤ c.toNat && c.toNat < 0x7f && !part.refused.contains c

def digitChar (value : Nat) : Char :=
  if value < 10 then Char.ofNat ('0'.toNat + value) else Char.ofNat ('A'.toNat + value - 10)

def escapeOctet (octet : UInt8) : List Char :=
  ['%', digitChar (octet.toNat / 16), digitChar (octet.toNat % 16)]

def octetsOf (c : Char) : List UInt8 :=
  (String.singleton c).toUTF8.toList

/-- A part as it is sent. -/
def encode (part : Part) (text : List Char) : List Char :=
  text.flatMap fun c => if part.holds c then [c] else (octetsOf c).flatMap escapeOctet

def digitValue? (c : Char) : Option Nat :=
  if '0' ≤ c && c ≤ '9' then some (c.toNat - '0'.toNat)
  else if 'a' ≤ c && c ≤ 'f' then some (c.toNat - 'a'.toNat + 10)
  else if 'A' ≤ c && c ≤ 'F' then some (c.toNat - 'A'.toNat + 10)
  else none

/-- The octets that a part stands for. A percent sign without two digits stands for itself. -/
def decode : List Char → List UInt8
  | [] => []
  | '%' :: high :: low :: rest =>
    match digitValue? high, digitValue? low with
    | some h, some l => UInt8.ofNat (16 * h + l) :: decode rest
    | _, _ => octetsOf '%' ++ decode (high :: low :: rest)
  | c :: rest => octetsOf c ++ decode rest

end TypedClient.Percent
