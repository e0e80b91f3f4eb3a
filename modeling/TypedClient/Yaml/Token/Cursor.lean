import TypedClient.Yaml.Error

/-!
A place in a text with what follows it. Lines end at any of the line ends of the format; a byte
order mark takes no column. The end of the text reads as the character with code zero, which no
document holds.
-/

namespace TypedClient.Yaml

structure Cursor where
  rest : List Char
  /-- The number of characters in `rest`. -/
  left : Nat
  index : Nat
  line : Nat
  column : Nat

/-- Repeats a step until it answers. Every step has to bring `left` down; one that does not ends the
loop with the answer of `stuck`. -/
def repeatStep (left : σ → Nat) (step : σ → Except ε (σ ⊕ α)) (stuck : σ → Except ε α)
    (state : σ) : Except ε α :=
  match step state with
  | .error e => .error e
  | .ok (.inr answer) => .ok answer
  | .ok (.inl next) =>
    if left next < left state then repeatStep left step stuck next else stuck next
termination_by left state

def endChar : Char := '\x00'

def isBreak (c : Char) : Bool :=
  c == '\n' || c == '\r' || c == '\x85' || c == '\u2028' || c == '\u2029'

def isBreakOrEnd (c : Char) : Bool :=
  isBreak c || c == endChar

/-- A space, a line end or the end of the text. -/
def isSpaceOrBreak (c : Char) : Bool :=
  c == ' ' || isBreakOrEnd c

/-- A space, a tab, a line end or the end of the text. -/
def isGap (c : Char) : Bool :=
  c == '\t' || isSpaceOrBreak c

/-- A letter, a digit, a hyphen or an underscore. -/
def isWordChar (c : Char) : Bool :=
  c.isAlphanum || c == '-' || c == '_'

namespace Cursor

def ofText (chars : List Char) : Cursor :=
  ⟨chars, chars.length, 0, 0, 0⟩

def peek (cursor : Cursor) : Char :=
  cursor.rest.headD endChar

def peekAt (cursor : Cursor) (distance : Nat) : Char :=
  cursor.rest.getD distance endChar

def next (cursor : Cursor) : Cursor :=
  match cursor.rest with
  | [] => cursor
  | c :: rest =>
    let endsLine := isBreak c && !(c == '\r' && rest.head? == some '\n')
    { rest
      left := cursor.left - 1
      index := cursor.index + 1
      line := if endsLine then cursor.line + 1 else cursor.line
      column :=
        if endsLine then 0 else if c == '\ufeff' then cursor.column else cursor.column + 1 }

def advance (cursor : Cursor) : Nat → Cursor
  | 0 => cursor
  | count + 1 => cursor.next.advance count

/-- The characters of a class from here on, and the place behind them. -/
def spanFrom (inClass : Char → Bool) : List Char → Cursor → List Char × Cursor
  | [], cursor => ([], cursor)
  | c :: rest, cursor =>
    if inClass c then
      let (taken, after) := spanFrom inClass rest cursor.next
      (c :: taken, after)
    else ([], cursor)

/-- The characters of a class from here on, and the place behind them. -/
def span (cursor : Cursor) (inClass : Char → Bool) : List Char × Cursor :=
  spanFrom inClass cursor.rest cursor

/-- The place behind the characters of a class. -/
def skip (cursor : Cursor) (inClass : Char → Bool) : Cursor :=
  (cursor.span inClass).2

/-- The line end that is here, as it counts in a scalar, and the place behind it. -/
def lineBreak (cursor : Cursor) : List Char × Cursor :=
  let c := cursor.peek
  if c == '\r' && cursor.peekAt 1 == '\n' then (['\n'], cursor.advance 2)
  else if c == '\r' || c == '\n' || c == '\x85' then (['\n'], cursor.next)
  else if isBreak c then ([c], cursor.next)
  else ([], cursor)

/-- Three characters mark a document here: they stand alone. -/
def isMarkedBy (cursor : Cursor) (mark : Char) : Bool :=
  cursor.peek == mark && cursor.peekAt 1 == mark && cursor.peekAt 2 == mark &&
    isGap (cursor.peekAt 3)

/-- A document starts or ends here. -/
def isAtSeparator (cursor : Cursor) : Bool :=
  cursor.isMarkedBy '-' || cursor.isMarkedBy '.'

/-- The place behind spaces and a comment; the line has to end there. -/
def restOfLine (cursor : Cursor) (otherwise : Malformed) : Except Fault Cursor :=
  let atEnd := cursor.skip (· == ' ')
  let behind := if atEnd.peek == '#' then atEnd.skip fun c => !isBreakOrEnd c else atEnd
  if isBreakOrEnd behind.peek then .ok behind.lineBreak.2 else .error (.malformed otherwise)

end Cursor

end TypedClient.Yaml
