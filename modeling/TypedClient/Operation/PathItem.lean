import TypedClient.Operation.Extract

namespace TypedClient.PathItem

def knownMethods : List String := ["post", "get", "patch", "delete", "put"]

/-- The keys of a path item that are no operations. -/
def metadataKeys : List String := ["summary", "description", "servers", "parameters", "$ref"]

def isExtension (key : Value) : Bool :=
  "x-".toList.isPrefixOf key.toText.toList

def isOneOf (words : List String) (key : Value) : Bool :=
  (key.text?.map words.contains).getD false

def isKnownKey (key : Value) : Bool :=
  isOneOf knownMethods key || isOneOf metadataKeys key || isExtension key

/-- The texts of the keys that may not stand in a path item, in order. -/
def unknownKeys (item : Entries) : List String :=
  (item.filter fun entry => !isKnownKey entry.1).map fun entry => entry.1.toText

def ensureKnown (path : String) (item : Entries) : Except CompileError Unit := do
  ensureWritable (item.map (·.1))
  match unknownKeys item with
  | [] => return ()
  | keys => .error (.unknownMethods path keys)

/-- An entry of a path item as an operation: a supported kind with a mapping. -/
def operation? (entry : Value × Value) : Option (String × Entries) :=
  match entry.1.text?, entry.2.entries? with
  | some key, some entries => if knownMethods.contains key then some (key, entries) else none
  | _, _ => none

/-- The operations of a path item with their kinds, in order of declaration. -/
def operations (item : Entries) : List (String × Entries) :=
  item.filterMap operation?

end TypedClient.PathItem
