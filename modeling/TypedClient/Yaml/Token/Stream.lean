import TypedClient.Yaml.Token.Mark
import TypedClient.Yaml.Token.Scalar

/-!
The tokens of a YAML text. Outside of brackets indentation opens and closes collections. What may
turn out to be a key is remembered, one candidate for every depth of brackets; when a colon follows
in time the token of the key is put in front of it. A candidate is out of date on the next line and
more than 1024 characters further on, and that is a fault where nothing but a key could stand.
-/

namespace TypedClient.Yaml

/-- A token that may turn out to be a key: the position of its token and its place in the text. -/
structure KeyCandidate where
  position : Nat
  isRequired : Bool
  index : Nat
  line : Nat
  column : Nat

/-- Tokens read so far, the last one first, and their number. -/
structure TokenRun where
  reversed : List Token
  size : Nat

namespace TokenRun

def empty : TokenRun :=
  ⟨[], 0⟩

def push (run : TokenRun) (token : Token) : TokenRun :=
  ⟨token :: run.reversed, run.size + 1⟩

/-- Puts a token in front of the one at a position, or at the end. -/
def insert (run : TokenRun) (position : Nat) (token : Token) : TokenRun :=
  ⟨run.reversed.insertIdx (run.size - position) token, run.size + 1⟩

def toList (run : TokenRun) : List Token :=
  run.reversed.reverse

end TokenRun

/-- The tokens read so far and what is open. -/
structure TokenState where
  cursor : Cursor
  tokens : TokenRun
  /-- The number of open brackets. -/
  depth : Nat
  /-- The column of the innermost open block collection. -/
  indent : Int
  /-- The columns of the block collections around it. -/
  outer : List Int
  /-- A key may start here. -/
  keyAllowed : Bool
  /-- The candidates by their depth of brackets. -/
  candidates : List (Nat × KeyCandidate)
  isFinished : Bool

namespace TokenState

def ofText (chars : List Char) : TokenState where
  cursor := .ofText chars
  tokens := .empty
  depth := 0
  indent := -1
  outer := []
  keyAllowed := true
  candidates := []
  isFinished := false

def push (state : TokenState) (token : Token) : TokenState :=
  { state with tokens := state.tokens.push token }

/-- Brackets are open, so indentation does not count. -/
def inFlow (state : TokenState) : Bool :=
  state.depth != 0

/-- Goes to the next token and notes whether a line ends before it. -/
def skipGap : List Char → Bool → Cursor × Bool → Cursor × Bool
  | [], _, found => found
  | c :: rest, inComment, (cursor, endedLine) =>
    if isBreak c then skipGap rest false (cursor.next, true)
    else if inComment || c == ' ' then skipGap rest inComment (cursor.next, endedLine)
    else if c == '#' then skipGap rest true (cursor.next, endedLine)
    else (cursor, endedLine)

/-- Goes to the next token. A byte order mark at the start of the text is skipped. Behind a line end
outside of brackets a key may start. -/
def toNextToken (state : TokenState) : TokenState :=
  let start :=
    if state.cursor.index == 0 && state.cursor.peek == '\ufeff' then state.cursor.next
    else state.cursor
  let (cursor, endedLine) := skipGap start.rest false (start, false)
  { state with cursor, keyAllowed := state.keyAllowed || (endedLine && !state.inFlow) }

/-- A candidate is out of date at a place. -/
def isOutdated (cursor : Cursor) (candidate : KeyCandidate) : Bool :=
  candidate.line != cursor.line || cursor.index - candidate.index > 1024

def dropOutdated (state : TokenState) : Except Fault TokenState :=
  let (outdated, current) := state.candidates.partition fun entry => isOutdated state.cursor entry.2
  if outdated.any fun entry => entry.2.isRequired then .error (.malformed .missingColon)
  else .ok { state with candidates := current }

/-- The candidate at the current depth. -/
def candidate? (state : TokenState) : Option KeyCandidate :=
  state.candidates.lookup state.depth

def forgetCandidate (state : TokenState) : TokenState :=
  { state with candidates := state.candidates.filter fun entry => entry.1 != state.depth }

/-- Drops the candidate at the current depth, which must not be required. -/
def dropCandidate (state : TokenState) : Except Fault TokenState :=
  match state.candidate? with
  | some candidate =>
    if candidate.isRequired then .error (.malformed .missingColon) else .ok state.forgetCandidate
  | none => .ok state

/-- Notes that the next token may be a key, where one may start. -/
def noteCandidate (state : TokenState) : Except Fault TokenState := do
  if !state.keyAllowed then return state
  let cleared ← state.dropCandidate
  let cursor := state.cursor
  let isRequired := !state.inFlow && decide (state.indent = cursor.column)
  let candidate : KeyCandidate :=
    ⟨state.tokens.size, isRequired, cursor.index, cursor.line, cursor.column⟩
  return { cleared with candidates := (state.depth, candidate) :: cleared.candidates }

/-- Closes the block collections that stand deeper than a column. -/
def closeDeeper (column : Int) (indent : Int) :
    List Int → TokenRun → Int × List Int × TokenRun
  | [], tokens => (indent, [], tokens)
  | next :: outer, tokens =>
    if indent > column then closeDeeper column next outer (tokens.push .blockEnd)
    else (indent, next :: outer, tokens)

/-- Closes the block collections that stand deeper than a column; inside brackets none is closed. -/
def unwind (state : TokenState) (column : Int) : TokenState :=
  if state.inFlow then state
  else
    let (indent, outer, tokens) := closeDeeper column state.indent state.outer state.tokens
    { state with indent, outer, tokens }

/-- Opens a block collection at a column that is deeper than the innermost one; its token is put at
a position. -/
def openBlock (state : TokenState) (column : Nat) (position : Nat) (token : Token) : TokenState :=
  if !state.inFlow && decide (state.indent < (column : Int)) then
    { state with
      indent := column
      outer := state.indent :: state.outer
      tokens := state.tokens.insert position token }
  else state

def openBlockHere (state : TokenState) (token : Token) : TokenState :=
  state.openBlock state.cursor.column state.tokens.size token

def take (state : TokenState) (count : Nat) (token : Token) : TokenState :=
  { state.push token with cursor := state.cursor.advance count }

/-- Ends the text: everything that is open is closed. -/
def finish (state : TokenState) : Except Fault TokenState := do
  let cleared ← (state.unwind (-1)).dropCandidate
  return { cleared with keyAllowed := false, candidates := [], isFinished := true }

def documentMark (state : TokenState) (token : Token) : Except Fault TokenState := do
  let cleared ← (state.unwind (-1)).dropCandidate
  return { cleared.take 3 token with keyAllowed := false }

def directive (state : TokenState) : Except Fault TokenState := do
  let cleared ← (state.unwind (-1)).dropCandidate
  let (directive, cursor) ← Mark.readDirective cleared.cursor.next
  return { cleared.push (.directive directive) with cursor, keyAllowed := false }

/-- Opens brackets, which may be a key. -/
def openBrackets (state : TokenState) (token : Token) : Except Fault TokenState := do
  let noted ← state.noteCandidate
  return { noted.take 1 token with depth := state.depth + 1, keyAllowed := true }

def closeBrackets (state : TokenState) (token : Token) : Except Fault TokenState := do
  let cleared ← state.dropCandidate
  match cleared.depth with
  | 0 => .error (.malformed .unmatchedBracket)
  | depth + 1 => return { cleared.take 1 token with depth, keyAllowed := false }

def comma (state : TokenState) : Except Fault TokenState := do
  let cleared ← state.dropCandidate
  return { cleared.take 1 .flowEntry with keyAllowed := true }

def entry (state : TokenState) : Except Fault TokenState := do
  if !state.inFlow && !state.keyAllowed then .error (.malformed .entryNotAllowed)
  let cleared ← (state.openBlockHere .blockSequenceStart).dropCandidate
  return { cleared.take 1 .blockEntry with keyAllowed := true }

def key (state : TokenState) : Except Fault TokenState := do
  if !state.inFlow && !state.keyAllowed then .error (.malformed .keyNotAllowed)
  let cleared ← (state.openBlockHere .blockMappingStart).dropCandidate
  return { cleared.take 1 .key with keyAllowed := !state.inFlow }

/-- Adds the colon of a value. A candidate in front of it is a key; without one the value belongs to
a marked key. -/
def value (state : TokenState) : Except Fault TokenState := do
  match state.candidate? with
  | some candidate =>
    let cleared := state.forgetCandidate
    let withKey :=
      { cleared with tokens := cleared.tokens.insert candidate.position .key }
    let opened := withKey.openBlock candidate.column candidate.position .blockMappingStart
    return { opened.take 1 .value with keyAllowed := false }
  | none =>
    if !state.inFlow && !state.keyAllowed then .error (.malformed .valueNotAllowed)
    let opened := state.openBlockHere .blockMappingStart
    return { opened.take 1 .value with keyAllowed := !state.inFlow }

/-- Adds a token that may be a key, as it is read from the text. -/
def single (state : TokenState) (read : Cursor → Except Fault (Token × Cursor)) :
    Except Fault TokenState := do
  let noted ← state.noteCandidate
  let (token, cursor) ← read noted.cursor
  return { noted.push token with cursor, keyAllowed := false }

def block (state : TokenState) (isFolded : Bool) : Except Fault TokenState := do
  let cleared ← state.dropCandidate
  let (text, cursor) ← BlockScalar.read isFolded cleared.indent cleared.cursor.next
  return { cleared.push (.scalar text false) with cursor, keyAllowed := true }

/-- Adds a plain scalar, behind which a key may start on a new line. -/
def plain (state : TokenState) : Except Fault TokenState := do
  let noted ← state.noteCandidate
  let scalar ← PlainScalar.read state.inFlow (state.indent + 1) noted.cursor
  let text := String.ofList scalar.reversed.reverse
  return { noted.push (.scalar text true) with
    cursor := scalar.cursor, keyAllowed := scalar.endedLine }

def startsPlain (state : TokenState) : Bool :=
  let c := state.cursor.peek
  let isIndicator := "-?:,[]\x7b\x7d#&*!|>\x27\"%@\x60".toList.contains c
  !(isGap c || isIndicator) ||
    (!isGap (state.cursor.peekAt 1) && (c == '-' || (!state.inFlow && (c == '?' || c == ':'))))

def tokenHere (state : TokenState) : Except Fault TokenState :=
  let cursor := state.cursor
  let c := cursor.peek
  let standsAlone := isGap (cursor.peekAt 1)
  let name (make : String → Token) (cursor : Cursor) : Except Fault (Token × Cursor) :=
    (Mark.readName cursor.next).map fun (name, behind) => (make name, behind)
  let quoted (isDouble : Bool) (cursor : Cursor) : Except Fault (Token × Cursor) :=
    (QuotedScalar.read isDouble cursor.next).map fun (text, behind) => (.scalar text false, behind)
  if c == endChar then state.finish
  else if c == '%' && cursor.column == 0 then state.directive
  else if cursor.column == 0 && cursor.isMarkedBy '-' then state.documentMark .documentStart
  else if cursor.column == 0 && cursor.isMarkedBy '.' then state.documentMark .documentEnd
  else if c == '[' then state.openBrackets .flowSequenceStart
  else if c == '\x7b' then state.openBrackets .flowMappingStart
  else if c == ']' then state.closeBrackets .flowSequenceEnd
  else if c == '\x7d' then state.closeBrackets .flowMappingEnd
  else if c == ',' then state.comma
  else if c == '-' && standsAlone then state.entry
  else if c == '?' && (state.inFlow || standsAlone) then state.key
  else if c == ':' && (state.inFlow || standsAlone) then state.value
  else if c == '*' then state.single (name .alias)
  else if c == '&' then state.single (name .anchor)
  else if c == '!' then state.single Mark.readTag
  else if c == '|' && !state.inFlow then state.block false
  else if c == '>' && !state.inFlow then state.block true
  else if c == '\x27' then state.single (quoted false)
  else if c == '"' then state.single (quoted true)
  else if state.startsPlain then state.plain
  else .error (.malformed (.unexpectedCharacter c))

/-- Goes on to the next token and adds it, with the tokens that stand in front of it. -/
def step (state : TokenState) : Except Fault (TokenState ⊕ TokenState) := do
  let current ← state.toNextToken.dropOutdated
  let next ← (current.unwind current.cursor.column).tokenHere
  return if next.isFinished then .inr next else .inl next

/-- The tokens that can be read in front of a fault. What may still turn out to be a key cannot be
read yet, nor can what stands behind it. -/
def tokensUntil (state : TokenState) (fault : Fault) : List Token :=
  let pending := state.candidates.filter fun entry => !isOutdated state.cursor entry.2
  let positions := pending.map fun entry => entry.2.position
  state.tokens.toList.take (positions.min?.getD state.tokens.size) ++ [.unreadable fault]

/-- Goes on to the next token, unless the text ends or has a fault. -/
def advance (state : TokenState) : TokenState ⊕ List Token :=
  match state.step with
  | .ok (.inl next) => .inl next
  | .ok (.inr last) => .inr last.tokens.toList
  | .error fault => .inr (state.tokensUntil fault)

end TokenState

/-- A character that a document may hold. -/
def isAllowed (c : Char) : Bool :=
  let code := c.toNat
  c == '\t' || c == '\n' || c == '\r' || (0x20 ≤ code && code ≤ 0x7e) || code == 0x85 ||
    (0xa0 ≤ code && code ≤ 0xfffd) || 0x10000 ≤ code

def tokensOf (text : String) : Except Fault (List Token) :=
  match text.toList.find? fun c => !isAllowed c with
  | some c => .error (.malformed (.unprintable c))
  | none =>
    repeatStep (·.cursor.left) (fun state => .ok state.advance) (.ok ·.tokens.toList)
      (TokenState.ofText text.toList)

end TypedClient.Yaml
