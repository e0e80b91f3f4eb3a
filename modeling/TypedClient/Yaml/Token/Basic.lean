import TypedClient.Yaml.Error

/-!
Tokens of a YAML stream. Indentation is already resolved: block collections have tokens for their
start and their end, and a key has a token of its own whether it is marked in the text or not. Where
a text stops being readable its tokens end with the fault.
-/

namespace TypedClient.Yaml

inductive Directive where
  | version (major minor : Nat)
  | tagHandle (handle meaning : String)
  | other (name : String)
  deriving DecidableEq, Repr

/-- A token. A tag has a handle, unless it is written out. -/
inductive Token where
  | directive (directive : Directive)
  | documentStart
  | documentEnd
  | blockSequenceStart
  | blockMappingStart
  | blockEnd
  | flowSequenceStart
  | flowSequenceEnd
  | flowMappingStart
  | flowMappingEnd
  | blockEntry
  | flowEntry
  | key
  | value
  | alias (name : String)
  | anchor (name : String)
  | tag (handle : Option String) (suffix : String)
  | scalar (text : String) (isPlain : Bool)
  /-- No more can be read. -/
  | unreadable (fault : Fault)
  deriving DecidableEq, Repr

end TypedClient.Yaml
