/-!
Reading a row of bits or octets from its front. Compressed data may end anywhere, which leaves what
is read so far; only data that means nothing is at fault.
-/

namespace TypedClient.Deflate

inductive Stop where
  | ended
  | malformed
  deriving DecidableEq, Repr

abbrev Reader (σ : Type) := StateT (List σ) (Except Stop)

namespace Reader

def next {σ : Type} : Reader σ σ
  | [] => .error .ended
  | item :: rest => .ok (item, rest)

def take {σ : Type} (count : Nat) : Reader σ (List σ) := fun items =>
  let front := items.take count
  if front.length < count then .error .ended else .ok (front, items.drop count)

/-- Reads a number of some bits, the lowest first. -/
def number (width : Nat) : Reader Bool Nat := do
  let bits ← take width
  return bits.foldr (fun bit value => bit.toNat + 2 * value) 0

/-- Goes on to the next whole octet. -/
def align : Reader Bool Unit := fun bits =>
  .ok ((), bits.drop (bits.length % 8))

end Reader

/-- The bits of an octet, the lowest first. -/
def bitsOfOctet (octet : UInt8) : List Bool :=
  (List.range 8).map fun place => octet.toNat.testBit place

/-- The bits of octets, in the order in which they are read. -/
def bitsOf (octets : List UInt8) : List Bool :=
  octets.flatMap bitsOfOctet

/-- The number that octets write with the lowest first. -/
def lowFirst (octets : List UInt8) : Nat :=
  octets.foldr (fun octet value => octet.toNat + 256 * value) 0

/-- The number that octets write with the highest first. -/
def highFirst (octets : List UInt8) : Nat :=
  octets.foldl (fun value octet => octet.toNat + 256 * value) 0

end TypedClient.Deflate
