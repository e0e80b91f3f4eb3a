import TypedClient.Deflate.Code

/-!
Compressed data: a row of blocks. A block holds octets as they are, or symbols in prefix codes; a
symbol is an octet, the end of the block, or the length of a stretch that is repeated from some
distance back.
-/

namespace TypedClient.Deflate

inductive Stage where
  | header
  /-- Octets as they are. -/
  | stored (count : Nat)
  | coded (literals distances : Code)
  | finished
  deriving DecidableEq, Repr

/-- How far reading has come. The output has the last octet first. -/
structure Progress where
  isLast : Bool
  stage : Stage
  output : List UInt8
  deriving DecidableEq, Repr

namespace Progress

def start : Progress :=
  ⟨false, .header, []⟩

/-- A block is read. -/
def endBlock (progress : Progress) : Progress :=
  { progress with stage := if progress.isLast then .finished else .header }

/-- Octets as they are come next. -/
def expect (progress : Progress) (count : Nat) : Progress :=
  if count = 0 then progress.endBlock else { progress with stage := .stored count }

def put (progress : Progress) (octet : UInt8) : Progress :=
  { progress with output := octet :: progress.output }

/-- A stretch from some distance back comes out again. A stretch longer than the distance repeats
itself. -/
def repeatFrom (progress : Progress) (distance length : Nat) : Progress :=
  let stretch := (progress.output.take distance).reverse
  let copies := (List.replicate (length / distance + 1) stretch).flatten
  { progress with output := (copies.take length).reverse ++ progress.output }

end Progress

/-! ### Codes of a block -/

/-- The code for octets and lengths that needs no description. -/
def standardLiterals : Code :=
  .ofLengths (List.replicate 144 8 ++ List.replicate 112 9 ++ List.replicate 24 7 ++
    List.replicate 8 8)

/-- The code for distances that needs no description. -/
def standardDistances : Code :=
  .ofLengths (List.replicate 32 5)

/-- The order in which the lengths of the code for lengths are written. -/
def lengthOrder : List Nat :=
  [16, 17, 18, 0, 8, 7, 9, 6, 10, 5, 11, 4, 12, 3, 13, 2, 14, 1, 15]

/-- Reads the lengths that a symbol stands for, behind those before. -/
def readRun (before : List Nat) (symbol : Nat) : Reader Bool (List Nat) := do
  if symbol < 16 then return [symbol]
  else if symbol = 16 then
    let count := 3 + (← Reader.number 2)
    match before.getLast? with
    | some length => return List.replicate count length
    | none => throw .malformed
  else if symbol = 17 then return List.replicate (3 + (← Reader.number 3)) 0
  else return List.replicate (11 + (← Reader.number 7)) 0

/-- Reads lengths behind those before until there is a number of them. Every step reads one at
least. -/
def readLengths (code : Code) (total : Nat) : Nat → List Nat → Reader Bool (List Nat)
  | 0, lengths => return lengths
  | steps + 1, lengths => do
    if total ≤ lengths.length then return lengths
    let symbol ← code.read
    let lengths := lengths ++ (← readRun lengths symbol)
    if total < lengths.length then throw .malformed
    readLengths code total steps lengths

def require {α : Type} (value : Option α) : Reader Bool α :=
  match value with
  | some value => pure value
  | none => throw .malformed

def endSymbol : Nat := 256

def readCodes : Reader Bool (Code × Code) := do
  let literalCount := 257 + (← Reader.number 5)
  let distanceCount := 1 + (← Reader.number 5)
  let lengthCount := 4 + (← Reader.number 4)
  if 286 < literalCount || 30 < distanceCount then throw .malformed
  let written ← (List.range lengthCount).mapM fun _ => Reader.number 3
  let ordered := (lengthOrder.zip written).mergeSort fun a b => a.1 ≤ b.1
  let lengths := (List.range lengthOrder.length).map fun place => (ordered.lookup place).getD 0
  let code ← require (Code.forLengths? lengths)
  let total := literalCount + distanceCount
  let lengths ← readLengths code total total []
  if lengths[endSymbol]? == some 0 then throw .malformed
  let literals ← require (Code.ofLengths? (lengths.take literalCount))
  let distances ← require (Code.ofLengths? (lengths.drop literalCount))
  return (literals, distances)

/-! ### Blocks -/

/-- Reads the length that a symbol behind the end symbol starts. -/
def readLength (symbol : Nat) : Reader Bool Nat := do
  let place := symbol - (endSymbol + 1)
  if place < 8 then return place + 3
  else if place < 28 then
    let width := place / 4 - 1
    return (4 + place % 4) * Nat.pow 2 width + 3 + (← Reader.number width)
  else if place = 28 then return 258
  else throw .malformed

def readDistance (symbol : Nat) : Reader Bool Nat := do
  if symbol < 4 then return symbol + 1
  else if symbol < 30 then
    let width := symbol / 2 - 1
    return (2 + symbol % 2) * Nat.pow 2 width + 1 + (← Reader.number width)
  else throw .malformed

/-- Reads the front of a block. The number of stored octets is written twice, the second time with
all bits turned over. -/
def readHeader (progress : Progress) : Reader Bool Progress := do
  let progress := { progress with isLast := ← Reader.next }
  match ← Reader.number 2 with
  | 0 =>
    Reader.align
    let count ← Reader.number 16
    let complement ← Reader.number 16
    if count + complement != 0xffff then throw .malformed
    return progress.expect count
  | 1 => return { progress with stage := .coded standardLiterals standardDistances }
  | 2 =>
    let (literals, distances) ← readCodes
    return { progress with stage := .coded literals distances }
  | _ => throw .malformed

/-- Reads a symbol of a block, with what belongs to it. -/
def readSymbol (literals distances : Code) (progress : Progress) : Reader Bool Progress := do
  let symbol ← literals.read
  if symbol < endSymbol then return progress.put (UInt8.ofNat symbol)
  else if symbol = endSymbol then return progress.endBlock
  else
    let length ← readLength symbol
    let distance ← readDistance (← distances.read)
    if progress.output.length < distance then throw .malformed
    return progress.repeatFrom distance length

def step (progress : Progress) : Reader Bool Progress := do
  match progress.stage with
  | .header => readHeader progress
  | .stored count =>
    let octet ← Reader.number 8
    return (progress.put (UInt8.ofNat octet)).expect (count - 1)
  | .coded literals distances => readSymbol literals distances progress
  | .finished => return progress

/-- Reads to the end of the last block or of the bits, and gives what is left of them. Every step
reads one bit at least. -/
def run : Nat → Progress → List Bool → Except Stop (Progress × List Bool)
  | 0, progress, bits => .ok (progress, bits)
  | steps + 1, progress, bits =>
    if progress.stage = .finished then .ok (progress, bits)
    else
      match step progress bits with
      | .ok (next, rest) => run steps next rest
      | .error .ended => .ok (progress, [])
      | .error .malformed => .error .malformed

/-- What comes out of compressed data, and the octets behind it, if it has an end. -/
structure Inflated where
  output : List UInt8
  rest : Option (List UInt8)
  deriving DecidableEq, Repr

/-- What comes out of compressed data. -/
def inflate (octets : List UInt8) : Except Stop Inflated := do
  let bits := bitsOf octets
  let (progress, rest) ← run bits.length .start bits
  let behind := octets.drop (octets.length - rest.length / 8)
  return ⟨progress.output.reverse, if progress.stage = .finished then some behind else none⟩

end TypedClient.Deflate
