import TypedClient.Deflate.Inflate

/-!
Compressed data as it is sent: in one of two wrappers, which say how it is compressed and have a
checksum behind it, or plain. Where the checksum is cut off, it is not checked.
-/

namespace TypedClient.Deflate

/-! ### Checksums -/

/-- Two sums, of the octets and of the first sum, both with one prime as the modulus. -/
def adler32 (octets : List UInt8) : Nat :=
  let modulus := 65521
  let (low, high) := octets.foldl (fun (low, high) octet =>
    let low := (low + octet.toNat) % modulus
    (low, (high + low) % modulus)) (1, 0)
  65536 * high + low

/-- A step of the division that the cyclic checksum is the remainder of. -/
def crcStep (remainder : UInt32) : UInt32 :=
  let shifted := remainder >>> 1
  if remainder &&& 1 == 1 then shifted ^^^ 0xedb88320 else shifted

def crc32 (octets : List UInt8) : Nat :=
  let remainder := octets.foldl (fun remainder octet =>
    (List.range 8).foldl (fun remainder _ => crcStep remainder) (remainder ^^^ octet.toUInt32))
    (0xffffffff : UInt32)
  (remainder ^^^ 0xffffffff).toNat

/-! ### Wrappers -/

/-- The output, unless the octets behind the data say something else of it. -/
def checked (inflated : Inflated) (isRight : List UInt8 → Bool) : Except Stop (List UInt8) :=
  match inflated.rest with
  | some trailer => if isRight trailer then .ok inflated.output else .error .malformed
  | none => .ok inflated.output

/-- A number in front of the octets is this one, as far as it is there. -/
def startsWith (value : List UInt8 → Nat) (width expected : Nat) (octets : List UInt8) : Bool :=
  octets.length < width || value (octets.take width) == expected

/-- What is read, or nothing where the octets end before. -/
def orNothing (result : Except Stop (List UInt8)) : Except Stop (List UInt8) :=
  match result with
  | .error .ended => .ok []
  | _ => result

/-- Reads the header of the first wrapper: the method, and a multiple of 31 with it. A dictionary,
which the header may name, is not to be had. -/
def readHeaderOfZlib : Reader UInt8 Unit := do
  let method ← Reader.next
  let flags ← Reader.next
  if highFirst [method, flags] % 31 != 0 then throw .malformed
  if method.toNat % 16 != 8 || 7 < method.toNat / 16 then throw .malformed
  if flags.toNat.testBit 5 then
    let _ ← Reader.take 4
    throw .malformed

/-- The output of data in the first wrapper. -/
def unwrapZlib (octets : List UInt8) : Except Stop (List UInt8) :=
  orNothing do
    let (_, rest) ← readHeaderOfZlib octets
    let inflated ← inflate rest
    checked inflated (startsWith highFirst 4 (adler32 inflated.output))

/-- The output of data in the first wrapper, or of plain data. -/
def decodeDeflate (octets : List UInt8) : Except Stop (List UInt8) :=
  match unwrapZlib octets with
  | .ok output => .ok output
  | .error _ => (inflate octets).map (·.output)

/-- Reads a text up to the zero behind it. -/
def skipText : Reader UInt8 Unit := fun octets =>
  match octets.dropWhile (· != 0) with
  | [] => .error .ended
  | _ :: rest => .ok ((), rest)

/-- Reads the header of the second wrapper: a mark, the method, and as the flags say, more that need
not be known. -/
def readHeaderOfGzip : Reader UInt8 Unit := do
  let header ← get
  if (← Reader.take 2) != [0x1f, 0x8b] then throw .malformed
  let method ← Reader.next
  let flags := (← Reader.next).toNat
  if method != 8 || 0x20 ≤ flags then throw .malformed
  let _ ← Reader.take 6
  if flags.testBit 2 then
    let _ ← Reader.take (lowFirst (← Reader.take 2))
  if flags.testBit 3 then skipText
  if flags.testBit 4 then skipText
  if flags.testBit 1 then
    let checksum := crc32 (header.take (header.length - (← get).length)) % 65536
    if lowFirst (← Reader.take 2) != checksum then throw .malformed

/-- The output of data in the second wrapper. -/
def decodeGzip (octets : List UInt8) : Except Stop (List UInt8) :=
  orNothing do
    let (_, rest) ← readHeaderOfGzip octets
    let inflated ← inflate rest
    checked inflated fun trailer =>
      startsWith lowFirst 4 (crc32 inflated.output) trailer &&
        startsWith lowFirst 4 (inflated.output.length % Nat.pow 2 32) (trailer.drop 4)

end TypedClient.Deflate
