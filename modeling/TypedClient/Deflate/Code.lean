import TypedClient.Deflate.Reader

/-!
Prefix codes. A code is given by the lengths of its words alone: shorter words come before longer
ones, words of one length come in the order of their symbols, and each is the next one that has none
of the words before it as its start.
-/

namespace TypedClient.Deflate

/-- The words of a code as the ways through a tree. Not every way need lead to a symbol. -/
inductive Code where
  | nothing
  | symbol (value : Nat)
  | fork (zero one : Code)
  deriving DecidableEq, Repr

namespace Code

def read : Code → Reader Bool Nat
  | nothing => throw .malformed
  | symbol value => pure value
  | fork zero one => do if ← Reader.next then one.read else zero.read

def longest : Nat := 15

/-- The tree below a depth, which takes symbols from the front of a row of lengths and symbols, and
the symbols that are left. -/
def grow (depth : Nat) : Nat → List (Nat × Nat) → Code × List (Nat × Nat)
  | _, [] => (nothing, [])
  | 0, (_, value) :: rest => (symbol value, rest)
  | levels + 1, (length, value) :: rest =>
    if length ≤ depth then (symbol value, rest)
    else
      let (zero, rest) := grow (depth + 1) levels ((length, value) :: rest)
      let (one, rest) := grow (depth + 1) levels rest
      (fork zero one, rest)

/-- The code whose words have these lengths, in the order of the symbols. A symbol without a length
has no word. Every word has at least one bit. -/
def ofLengths (lengths : List Nat) : Code :=
  let used := lengths.zipIdx.filter fun entry => entry.1 != 0
  let sorted := used.mergeSort fun a b => a.1 ≤ b.1
  let (zero, rest) := grow 1 (longest - 1) sorted
  fork zero (grow 1 (longest - 1) rest).1

/-- How much of the words of the greatest length the words of these lengths take up. -/
def weight (lengths : List Nat) : Nat :=
  ((lengths.filter (· != 0)).map fun length => Nat.pow 2 (longest - length)).foldr (· + ·) 0

/-- Words of these lengths take up all room and no more. -/
def isExact (lengths : List Nat) : Bool :=
  weight lengths == Nat.pow 2 longest

/-- There is no word, or only one of a single bit. -/
def isThin (lengths : List Nat) : Bool :=
  weight lengths < Nat.pow 2 longest && lengths.all (· ≤ 1)

/-- The code of these lengths for the symbols of a block. -/
def ofLengths? (lengths : List Nat) : Option Code :=
  if isExact lengths || isThin lengths then some (ofLengths lengths) else none

/-- The code of these lengths for lengths. Without any word all bits stand for no length. -/
def forLengths? (lengths : List Nat) : Option Code :=
  if lengths.all (· == 0) then some (fork (symbol 0) (symbol 0))
  else if isExact lengths then some (ofLengths lengths)
  else none

end Code

end TypedClient.Deflate
