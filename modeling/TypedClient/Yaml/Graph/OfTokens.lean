import TypedClient.Yaml.Graph.Basic
import TypedClient.Yaml.Token.Basic

/-!
The nodes that tokens make up. Every step reads a part from the front of the tokens, adds its nodes
to the graph and hands on the rest, together with the fact that it is shorter. A node may be left
out behind the marks of entries, keys and values. A fault of the tokens counts only where they are
read so far.
-/

namespace TypedClient.Yaml

/-- Something read from the front of some tokens, and the shorter rest. -/
structure Parsed (α : Type) (tokens : List Token) where
  value : α
  rest : List Token
  shorter : rest.length < tokens.length

/-- What was read from a rest was read from the longer tokens too. -/
def Parsed.widen {shorterTokens tokens : List Token} (parsed : Parsed α shorterTokens)
    (fits : shorterTokens.length ≤ tokens.length) : Parsed α tokens :=
  ⟨parsed.value, parsed.rest, Nat.lt_of_lt_of_le parsed.shorter fits⟩

def Parsed.map (f : α → β) (parsed : Parsed α tokens) : Parsed β tokens :=
  ⟨f parsed.value, parsed.rest, parsed.shorter⟩

/-- Something that may be left out, and the rest. -/
structure Optional (α : Type) (tokens : List Token) where
  value : α
  rest : List Token
  fits : rest.length ≤ tokens.length

abbrev TagHandles := List (String × String)

def defaultHandles : TagHandles :=
  [("!", "!"), ("!!", "tag:yaml.org,2002:")]

/-- The tag that a handle and a suffix make up. -/
def fullTag (handles : TagHandles) (handle : Option String) (suffix : String) :
    Except Fault String :=
  match handle with
  | none => .ok suffix
  | some handle =>
    match handles.lookup handle with
    | some meaning => .ok (meaning ++ suffix)
    | none => .error (.malformed (.undefinedTagHandle handle))

/-- Why tokens do not go on as they should: they cannot be read, or something else is there. -/
def refusal (tokens : List Token) (cause : Malformed) : Fault :=
  match tokens with
  | .unreadable fault :: _ => fault
  | _ => .malformed cause

def ensureReadable (tokens : List Token) : Except Fault Unit :=
  match tokens with
  | .unreadable fault :: _ => .error fault
  | _ => .ok ()

/-- What may stand in front of a node. -/
structure Properties where
  anchor : Option String
  tag : Option String
  deriving DecidableEq, Repr

/-- No anchor and no tag. -/
def Properties.none : Properties :=
  ⟨.none, .none⟩

/-- Reads the anchor and the tag in front of a node, in either order. Behind only one of the two the
next token is looked at before the tag is. -/
def readProperties (handles : TagHandles) (tokens : List Token) :
    Except Fault (Optional Properties tokens) :=
  match tokens with
  | .anchor name :: .tag handle suffix :: rest =>
    (fullTag handles handle suffix).map fun tag =>
      ⟨⟨some name, some tag⟩, rest, by simp only [List.length_cons]; omega⟩
  | .tag handle suffix :: .anchor name :: rest =>
    (fullTag handles handle suffix).map fun tag =>
      ⟨⟨some name, some tag⟩, rest, by simp only [List.length_cons]; omega⟩
  | .anchor name :: rest => .ok ⟨⟨some name, none⟩, rest, by simp⟩
  | .tag handle suffix :: rest => do
    ensureReadable rest
    let tag ← fullTag handles handle suffix
    return ⟨⟨none, some tag⟩, rest, by simp⟩
  | rest => .ok ⟨Properties.none, rest, Nat.le_refl _⟩

def addScalar (properties : Properties) (text : String) (isPlain : Bool) : Composing Nat :=
  Composing.add properties.anchor ⟨Tag.ofScalar properties.tag text isPlain, .scalar text⟩

def addSequence (properties : Properties) : Composing Nat :=
  Composing.add properties.anchor ⟨Tag.ofCollection properties.tag .sequence, .sequence []⟩

def addMapping (properties : Properties) : Composing Nat :=
  Composing.add properties.anchor ⟨Tag.ofCollection properties.tag .mapping, .mapping []⟩

def addAbsent : Composing Nat :=
  addScalar .none "" true

/-- A node of which nothing but its properties is written. -/
def bareNode (properties : Optional Properties tokens) : Composing (Parsed Nat tokens) := do
  ensureReadable properties.rest
  if occupied : properties.rest.length < tokens.length then
    return ⟨← addScalar properties.value "" true, properties.rest, occupied⟩
  else throw (.malformed .expectedNode)

/-- A key or a value of a block mapping is left out. -/
def endsBlockMember : List Token → Bool
  | .key :: _ | .value :: _ | .blockEnd :: _ => true
  | _ => false

/-- An entry of a block sequence is left out. -/
def endsBlockItem : List Token → Bool
  | .blockEntry :: _ | .blockEnd :: _ => true
  | _ => false

/-- An entry of a sequence that stands at the column of a mapping is left out. -/
def endsUnindentedItem (tokens : List Token) : Bool :=
  endsBlockItem tokens || endsBlockMember tokens

/-- A value inside brackets is left out. -/
def endsFlowValue (close : Token) : List Token → Bool
  | token :: _ => token = .flowEntry || token = close
  | [] => false

/-- A key inside brackets is left out. -/
def endsFlowKey (close : Token) : List Token → Bool
  | .value :: _ => true
  | tokens => endsFlowValue close tokens

mutual

/-- Reads a node. The entries of a sequence may stand at the column of the mapping that the sequence
is a member of. -/
def readNode (handles : TagHandles) (isMember : Bool) (tokens : List Token) :
    Composing (Parsed Nat tokens) :=
  match tokens with
  | .alias name :: rest => return ⟨← Composing.aliased name, rest, by simp⟩
  | tokens => do
    let properties ← readProperties handles tokens
    have fits := properties.fits
    match content : properties.rest with
    | .scalar text isPlain :: rest =>
      have := congrArg List.length content
      return ⟨← addScalar properties.value text isPlain, rest, by simp at this; omega⟩
    | .flowSequenceStart :: rest =>
      have := congrArg List.length content
      let place ← addSequence properties.value
      let items ← readFlowItems handles rest
      Composing.setContent place (.sequence items.value)
      return (items.map fun _ => place).widen (by simp at this; omega)
    | .flowMappingStart :: rest =>
      have := congrArg List.length content
      let place ← addMapping properties.value
      let entries ← readFlowEntries handles rest
      Composing.setContent place (.mapping entries.value)
      return (entries.map fun _ => place).widen (by simp at this; omega)
    | .blockSequenceStart :: rest =>
      have := congrArg List.length content
      let place ← addSequence properties.value
      let items ← readBlockItems handles rest
      Composing.setContent place (.sequence items.value)
      return (items.map fun _ => place).widen (by simp at this; omega)
    | .blockMappingStart :: rest =>
      have := congrArg List.length content
      let place ← addMapping properties.value
      let entries ← readBlockEntries handles rest
      Composing.setContent place (.mapping entries.value)
      return (entries.map fun _ => place).widen (by simp at this; omega)
    | .blockEntry :: rest =>
      have := congrArg List.length content
      if isMember then
        let place ← addSequence properties.value
        let first ← readOptionalNode handles endsUnindentedItem false rest
        have := first.fits
        let others ← readUnindentedItems handles first.rest
        have := others.fits
        Composing.setContent place (.sequence (first.value :: others.value))
        return ⟨place, others.rest, by simp at *; omega⟩
      else bareNode properties
    | _ => bareNode properties
termination_by 5 * tokens.length
decreasing_by all_goals grind

def readOptionalNode (handles : TagHandles) (isLeftOut : List Token → Bool) (isMember : Bool)
    (tokens : List Token) : Composing (Optional Nat tokens) :=
  if isLeftOut tokens then return ⟨← addAbsent, tokens, Nat.le_refl _⟩
  else do
    let node ← readNode handles isMember tokens
    return ⟨node.value, node.rest, Nat.le_of_lt node.shorter⟩
termination_by 5 * tokens.length + 1
decreasing_by all_goals grind

/-- Reads the entries of a sequence that stands at the column of a mapping and has no end mark. -/
def readUnindentedItems (handles : TagHandles) (tokens : List Token) :
    Composing (Optional (List Nat) tokens) :=
  match tokens with
  | .blockEntry :: rest => do
    let item ← readOptionalNode handles endsUnindentedItem false rest
    have := item.fits
    let others ← readUnindentedItems handles item.rest
    have := others.fits
    return ⟨item.value :: others.value, others.rest, by simp; omega⟩
  | tokens => return ⟨[], tokens, Nat.le_refl _⟩
termination_by 5 * tokens.length
decreasing_by all_goals grind

def readBlockItems (handles : TagHandles) (tokens : List Token) :
    Composing (Parsed (List Nat) tokens) :=
  match tokens with
  | .blockEnd :: rest => return ⟨[], rest, by simp⟩
  | .blockEntry :: rest => do
    let item ← readOptionalNode handles endsBlockItem false rest
    have := item.fits
    let others ← readBlockItems handles item.rest
    return (others.map (item.value :: ·)).widen (by simp; omega)
  | tokens => throw (refusal tokens .expectedBlockEnd)
termination_by 5 * tokens.length
decreasing_by all_goals grind

def readBlockEntries (handles : TagHandles) (tokens : List Token) :
    Composing (Parsed (List (Nat × Nat)) tokens) :=
  match tokens with
  | .blockEnd :: rest => return ⟨[], rest, by simp⟩
  | .key :: rest => do
    let key ← readOptionalNode handles endsBlockMember true rest
    have := key.fits
    let value ← readValue handles endsBlockMember true key.rest
    have := value.fits
    let others ← readBlockEntries handles value.rest
    return (others.map ((key.value, value.value) :: ·)).widen (by simp; omega)
  | tokens => throw (refusal tokens .expectedBlockEnd)
termination_by 5 * tokens.length
decreasing_by all_goals grind

/-- Reads the value of an entry behind its mark. Without the mark there is no value. -/
def readValue (handles : TagHandles) (isLeftOut : List Token → Bool) (isMember : Bool)
    (tokens : List Token) : Composing (Optional Nat tokens) :=
  match tokens with
  | .value :: rest => do
    let value ← readOptionalNode handles isLeftOut isMember rest
    have := value.fits
    return ⟨value.value, value.rest, by simp; omega⟩
  | tokens => return ⟨← addAbsent, tokens, Nat.le_refl _⟩
termination_by 5 * tokens.length
decreasing_by all_goals grind

/-- Reads the key and the value of an entry inside brackets, behind the mark of the key. -/
def readFlowPair (handles : TagHandles) (close : Token) (tokens : List Token) :
    Composing (Optional (Nat × Nat) tokens) := do
  let key ← readOptionalNode handles (endsFlowKey close) false tokens
  have := key.fits
  let value ← readValue handles (endsFlowValue close) false key.rest
  have := value.fits
  return ⟨(key.value, value.value), value.rest, by omega⟩
termination_by 5 * tokens.length + 2
decreasing_by all_goals grind

/-- Reads an item of a sequence in brackets. An item with a key is a mapping of this entry alone. -/
def readFlowItem (handles : TagHandles) (tokens : List Token) :
    Composing (Parsed Nat tokens) :=
  match tokens with
  | .key :: rest => do
    let place ← addMapping Properties.none
    let pair ← readFlowPair handles .flowSequenceEnd rest
    have := pair.fits
    Composing.setContent place (.mapping [pair.value])
    return ⟨place, pair.rest, by simp; omega⟩
  | tokens => readNode handles false tokens
termination_by 5 * tokens.length + 3
decreasing_by all_goals grind

/-- Reads an entry of a mapping in brackets. A node without the mark of a key is a key without a
value. -/
def readFlowEntry (handles : TagHandles) (tokens : List Token) :
    Composing (Parsed (Nat × Nat) tokens) :=
  match tokens with
  | .key :: rest => do
    let pair ← readFlowPair handles .flowMappingEnd rest
    have := pair.fits
    return ⟨pair.value, pair.rest, by simp; omega⟩
  | tokens => do
    let key ← readNode handles false tokens
    let value ← addAbsent
    return key.map fun place => (place, value)
termination_by 5 * tokens.length + 3
decreasing_by all_goals grind

/-- Reads the items of a sequence in brackets and the closing bracket. -/
def readFlowItems (handles : TagHandles) (tokens : List Token) :
    Composing (Parsed (List Nat) tokens) :=
  match tokens with
  | .flowSequenceEnd :: rest => return ⟨[], rest, by simp⟩
  | tokens => do
    let item ← readFlowItem handles tokens
    have := item.shorter
    match following : item.rest with
    | .flowSequenceEnd :: rest => 
      have := congrArg List.length following
      return ⟨[item.value], rest, by simp at *; omega⟩
    | .flowEntry :: rest =>
      have := congrArg List.length following
      let others ← readFlowItems handles rest
      return (others.map (item.value :: ·)).widen (by simp at *; omega)
    | _ => throw (refusal item.rest .expectedFlowSeparator)
termination_by 5 * tokens.length + 4
decreasing_by all_goals grind

/-- Reads the entries of a mapping in brackets and the closing bracket. -/
def readFlowEntries (handles : TagHandles) (tokens : List Token) :
    Composing (Parsed (List (Nat × Nat)) tokens) :=
  match tokens with
  | .flowMappingEnd :: rest => return ⟨[], rest, by simp⟩
  | tokens => do
    let entry ← readFlowEntry handles tokens
    have := entry.shorter
    match following : entry.rest with
    | .flowMappingEnd :: rest =>
      have := congrArg List.length following
      return ⟨[entry.value], rest, by simp at *; omega⟩
    | .flowEntry :: rest =>
      have := congrArg List.length following
      let others ← readFlowEntries handles rest
      return (others.map (entry.value :: ·)).widen (by simp at *; omega)
    | _ => throw (refusal entry.rest .expectedFlowSeparator)
termination_by 5 * tokens.length + 4
decreasing_by all_goals grind

end

end TypedClient.Yaml
