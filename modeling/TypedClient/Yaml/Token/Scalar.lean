import TypedClient.Number.Numeral
import TypedClient.Text.Spelling
import TypedClient.Yaml.Token.Cursor

/-!
Scalars of a YAML text: plain ones, quoted ones and block ones. A line end inside a scalar folds
into a space, and further line ends after it stay, except where a block scalar keeps its lines.
Texts are gathered with the last character first.
-/

namespace TypedClient.Yaml

/-- A line end with the line ends after it, folded: a plain line end alone becomes a space. -/
def folded (first : List Char) (further : List Char) : List Char :=
  (if first ≠ ['\n'] then first else if further.isEmpty then [' '] else []) ++ further

/-! ### Plain scalars -/

/-- A plain scalar as far as it is read. -/
structure PlainScalar where
  cursor : Cursor
  reversed : List Char
  /-- What stands between the text read so far and the text that may follow. -/
  gap : List Char
  /-- A line has ended, so that a key may come next. -/
  endedLine : Bool

namespace PlainScalar

/-- The number of characters up to a gap or to a character that ends a plain scalar. -/
def length (inFlow : Bool) : List Char → Nat
  | [] => 0
  | c :: rest =>
    let following := rest.headD endChar
    let isIndicator (c : Char) := [',', '[', ']', '\x7b', '\x7d'].contains c
    let endsAtColon := c == ':' && (isGap following || (inFlow && isIndicator following))
    if isGap c || endsAtColon || (inFlow && (c == '?' || isIndicator c)) then 0
    else length inFlow rest + 1

/-- Spaces and line ends behind a line end; a document separator there gives nothing. -/
def furtherBreaks (cursor : Cursor) : Except Fault (Option (List Char) × Cursor) :=
  repeatStep (fun (state : List Char × Cursor) => state.2.left)
    (fun (reversed, cursor) =>
      if cursor.peek == ' ' then .ok (.inl (reversed, cursor.next))
      else if isBreak cursor.peek then
        let (ending, behind) := cursor.lineBreak
        if behind.isAtSeparator then .ok (.inr (none, behind))
        else .ok (.inl (ending ++ reversed, behind))
      else .ok (.inr (some reversed.reverse, cursor)))
    (fun (_, cursor) => .ok (none, cursor)) ([], cursor)

/-- The gap behind a part of a plain scalar, the place behind it, and whether a line has ended. -/
def gapAt (cursor : Cursor) : Except Fault (List Char × Cursor × Bool) := do
  let (spaces, behind) := cursor.span (· == ' ')
  if isBreak behind.peek then
    let (ending, behind) := behind.lineBreak
    if behind.isAtSeparator then return ([], behind, true)
    let (further, behind) ← furtherBreaks behind
    match further with
    | some breaks => return (folded ending breaks, behind, true)
    | none => return ([], behind, true)
  else return (spaces, behind, false)

/-- Reads a part of a plain scalar and the gap behind it. Outside of brackets the text goes on only
behind `indent` columns. -/
def readPart (inFlow : Bool) (indent : Int) (state : PlainScalar) :
    Except Fault (PlainScalar ⊕ PlainScalar) := do
  let count := length inFlow state.cursor.rest
  if state.cursor.peek == '#' || count == 0 then return .inr state
  let part := state.cursor.rest.take count
  let reversed := part.reverse ++ (state.gap.reverse ++ state.reversed)
  let (gap, cursor, endedLine) ← gapAt (state.cursor.advance count)
  let read : PlainScalar := ⟨cursor, reversed, gap, endedLine⟩
  let leaves := !inFlow && decide ((cursor.column : Int) < indent)
  if gap.isEmpty || cursor.peek == '#' || leaves then return .inr read
  return .inl read

def read (inFlow : Bool) (indent : Int) (cursor : Cursor) : Except Fault PlainScalar :=
  repeatStep (·.cursor.left) (readPart inFlow indent) .ok ⟨cursor, [], [], false⟩

end PlainScalar

/-! ### Quoted scalars -/

namespace QuotedScalar

/-- The meaning of an escape of one letter. -/
def escapes : List (Char × Char) := [
  ('0', '\x00'), ('a', '\x07'), ('b', '\x08'), ('t', '\t'), ('\t', '\t'), ('n', '\n'),
  ('v', '\x0b'), ('f', '\x0c'), ('r', '\r'), ('e', '\x1b'), (' ', ' '), ('"', '"'), ('\\', '\\'),
  ('/', '/'), ('N', '\x85'), ('_', '\xa0'), ('L', '\u2028'), ('P', '\u2029')]

def codeLength? : Char → Option Nat
  | 'x' => some 2
  | 'u' => some 4
  | 'U' => some 8
  | _ => none

/-- The code point with a code. Halves of a pair stay alone. -/
def pointOf (code : Nat) : Except Fault Text.CodePoint :=
  if code > 0x7fffffff then .error (.misfit .characterTooLarge)
  else if code > 0x10ffff then .error (.misfit .noSuchCharacter)
  else .ok (.ofCode code)

def hexValues? (digits : List Char) : Option (List Nat) :=
  digits.mapM fun c => if c.toNat < 0x80 then Text.digitValueIn? 16 c else none

/-- Line ends, with the spaces and tabs around them; no document may end here. -/
def breaksAt (cursor : Cursor) : Except Fault (List Char × Cursor) :=
  repeatStep (fun (state : List Char × Cursor) => state.2.left)
    (fun (reversed, cursor) =>
      if cursor.isAtSeparator then .error (.malformed .separatorInQuotes)
      else
        let behind := cursor.skip fun c => c == ' ' || c == '\t'
        if isBreak behind.peek then
          let (ending, behind) := behind.lineBreak
          .ok (.inl (ending ++ reversed, behind))
        else .ok (.inr (reversed.reverse, behind)))
    (fun (reversed, cursor) => .ok (reversed.reverse, cursor)) ([], cursor)

/-- What an escape stands for; the place is behind the backslash. -/
def escapeAt (cursor : Cursor) : Except Fault (List Char × Cursor) :=
  let c := cursor.peek
  match escapes.lookup c, codeLength? c with
  | some meant, _ => .ok ([meant], cursor.next)
  | none, some count => do
    let digits := cursor.next.rest.take count
    match hexValues? digits with
    | some values =>
      if values.length < count then .error (.malformed .badEscape)
      else
        let meant ← pointOf (Numeral.ofDigits 16 values)
        return (meant.spell, cursor.next.advance count)
    | none => .error (.malformed .badEscape)
  | none, none =>
    if isBreak c then breaksAt cursor.lineBreak.2 else .error (.malformed .badEscape)

structure State where
  cursor : Cursor
  reversed : List Char

/-- Reads characters up to a gap or the closing quote. -/
def solidPart (isDouble : Bool) (state : State) : Except Fault (State ⊕ State) := do
  let (taken, cursor) := state.cursor.span fun c =>
    !(isGap c || c == '\x27' || c == '"' || c == '\\')
  let reversed := taken.reverse ++ state.reversed
  let c := cursor.peek
  if !isDouble && c == '\x27' && cursor.peekAt 1 == '\x27' then
    return .inl ⟨cursor.advance 2, c :: reversed⟩
  else if (isDouble && c == '\x27') || (!isDouble && (c == '"' || c == '\\')) then
    return .inl ⟨cursor.next, c :: reversed⟩
  else if isDouble && c == '\\' then
    let (meant, behind) ← escapeAt cursor.next
    return .inl ⟨behind, meant.reverse ++ reversed⟩
  else return .inr ⟨cursor, reversed⟩

/-- Reads characters up to a gap or the closing quote. -/
def solidParts (isDouble : Bool) (state : State) : Except Fault State :=
  repeatStep (·.cursor.left) (solidPart isDouble) .ok state

def gapPart (state : State) : Except Fault State := do
  let (spaces, cursor) := state.cursor.span fun c => c == ' ' || c == '\t'
  if cursor.peek == endChar then .error (.malformed .unclosedQuote)
  else if isBreak cursor.peek then
    let (ending, behind) := cursor.lineBreak
    let (further, behind) ← breaksAt behind
    return ⟨behind, (folded ending further).reverse ++ state.reversed⟩
  else return ⟨cursor, spaces.reverse ++ state.reversed⟩

/-- Reads a quoted scalar behind its opening quote, and the closing quote. -/
def read (isDouble : Bool) (cursor : Cursor) : Except Fault (String × Cursor) := do
  let quote := if isDouble then '"' else '\x27'
  let first ← solidParts isDouble ⟨cursor, []⟩
  let last ← repeatStep (·.cursor.left)
    (fun state =>
      if state.cursor.peek == quote then .ok (.inr state)
      else do
        let next ← solidParts isDouble (← gapPart state)
        return .inl next)
    .ok first
  return (String.ofList last.reversed.reverse, last.cursor.next)

end QuotedScalar

/-! ### Block scalars -/

namespace BlockScalar

/-- What becomes of the line ends at the end of a block scalar. -/
inductive Chomping where
  | strip
  | clip
  | keep
  deriving DecidableEq, Repr

def chomping? : Char → Option Chomping
  | '+' => some .keep
  | '-' => some .strip
  | _ => none

/-- The indentation that a digit asks for. -/
def increment? (c : Char) : Option Nat :=
  if c.isDigit then some (c.toNat - '0'.toNat) else none

/-- Reads the signs behind the indicator of a block scalar, in either order. -/
def header (cursor : Cursor) : Except Fault (Chomping × Option Nat × Cursor) := do
  let c := cursor.peek
  let (chomping, increment, behind) :=
    match chomping? c, increment? c with
    | some chomping, _ =>
      match increment? cursor.next.peek with
      | some n => (chomping, some n, cursor.advance 2)
      | none => (chomping, none, cursor.next)
    | none, some n =>
      match chomping? cursor.next.peek with
      | some chomping => (chomping, some n, cursor.advance 2)
      | none => (.clip, some n, cursor.next)
    | none, none => (.clip, none, cursor)
  if increment = some 0 || !isSpaceOrBreak behind.peek then .error (.malformed .badBlockHeader)
  else return (chomping, increment, behind)

def skipIndent (indent : Nat) : List Char → Cursor → Cursor
  | ' ' :: rest, cursor =>
    if cursor.column < indent then skipIndent indent rest cursor.next else cursor
  | _, cursor => cursor

/-- The line ends in front of the next line that is not empty, and the place at its indentation. -/
def breaksAt (indent : Nat) (cursor : Cursor) : Except Fault (List Char × Cursor) :=
  repeatStep (fun (state : List Char × Cursor) => state.2.left)
    (fun (reversed, cursor) =>
      if isBreak cursor.peek then
        let (ending, behind) := cursor.lineBreak
        .ok (.inl (ending ++ reversed, skipIndent indent behind.rest behind))
      else .ok (.inr (reversed.reverse, cursor)))
    (fun (reversed, cursor) => .ok (reversed.reverse, cursor))
    ([], skipIndent indent cursor.rest cursor)

/-- The line ends in front of the first line, and the greatest column that is reached there. -/
def leadingBreaks (cursor : Cursor) : Except Fault (List Char × Nat × Cursor) :=
  repeatStep (fun (state : List Char × Nat × Cursor) => state.2.2.left)
    (fun (reversed, widest, cursor) =>
      if cursor.peek == ' ' then
        let behind := cursor.next
        .ok (.inl (reversed, max widest behind.column, behind))
      else if isBreak cursor.peek then
        let (ending, behind) := cursor.lineBreak
        .ok (.inl (ending ++ reversed, widest, behind))
      else .ok (.inr (reversed.reverse, widest, cursor)))
    (fun (reversed, widest, cursor) => .ok (reversed.reverse, widest, cursor)) ([], 0, cursor)

/-- A block scalar as far as it is read: the text of its lines, the line end behind the last one,
and the line ends after that. -/
structure State where
  cursor : Cursor
  reversed : List Char
  ending : List Char
  breaks : List Char

/-- A line goes on here. -/
def isLine (indent : Nat) (cursor : Cursor) : Bool :=
  cursor.column == indent && cursor.peek != endChar

/-- Reads a line. Between two lines of a folded scalar that do not start with white space the line
end is folded. -/
def readLine (isFolded : Bool) (indent : Nat) (state : State) : Except Fault (State ⊕ State) := do
  if !isLine indent state.cursor then return .inr state
  let startsSolid := !(state.cursor.peek == ' ' || state.cursor.peek == '\t')
  let (line, behind) := state.cursor.span fun c => !isBreakOrEnd c
  let reversed := line.reverse ++ (state.breaks.reverse ++ state.reversed)
  let (ending, behind) := behind.lineBreak
  let (breaks, behind) ← breaksAt indent behind
  if !isLine indent behind then return .inr ⟨behind, reversed, ending, breaks⟩
  let goesOnSolid := !(behind.peek == ' ' || behind.peek == '\t')
  let between :=
    if isFolded && ending == ['\n'] && startsSolid && goesOnSolid then
      if breaks.isEmpty then [' '] else []
    else ending
  return .inl ⟨behind, between.reverse ++ reversed, ending, breaks⟩

/-- Reads a block scalar behind its indicator; it stands deeper than the column `parent`. -/
def read (isFolded : Bool) (parent : Int) (cursor : Cursor) : Except Fault (String × Cursor) := do
  let (chomping, increment, cursor) ← header cursor
  let cursor ← cursor.restOfLine .badBlockHeader
  let least := max 1 (parent + 1).toNat
  let (breaks, indent, cursor) ←
    match increment with
    | some n => do
      let indent := least + n - 1
      let (breaks, cursor) ← breaksAt indent cursor
      pure (breaks, indent, cursor)
    | none => do
      let (breaks, widest, cursor) ← leadingBreaks cursor
      pure (breaks, max least widest, cursor)
  let last ← repeatStep (·.cursor.left) (readLine isFolded indent) .ok ⟨cursor, [], [], breaks⟩
  let ending := if chomping = .strip then [] else last.ending
  let kept := if chomping = .keep then last.breaks else []
  return (String.ofList (last.reversed.reverse ++ ending ++ kept), last.cursor)

end BlockScalar

end TypedClient.Yaml
