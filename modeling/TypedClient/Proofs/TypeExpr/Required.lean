import Mathlib.Data.List.Forall2
import TypedClient.Proofs.Outcome
import TypedClient.Proofs.Text.Characters
import TypedClient.Proofs.TypeExpr.Schema
import TypedClient.TypeExpr.Render

namespace TypedClient

namespace Text

theorem infix_unlines {lines : List String} (member : line ∈ lines) :
    line.toList <:+: (unlines lines).toList := by
  cases lines with
  | nil => cases member
  | cons first rest =>
    rw [toList_unlines_cons]
    rcases List.mem_cons.mp member with rfl | later
    · exact (List.prefix_append _ _).isInfix
    · obtain ⟨before, after, rfl⟩ := List.append_of_mem later
      exact ⟨first.toList ++ (before.flatMap fun line => '\n' :: line.toList) ++ ['\n'],
        after.flatMap fun line => '\n' :: line.toList, by simp⟩

end Text

namespace TypeExpr

/-! ### The parts of a schema -/

/-- A named type is the one of the property at its place. -/
def IsNamed (property : Value × Value) (named : String × TypeExpr) : Prop :=
  named.1 = property.1.toText ∧ ofSchema property.2 = .ok named.2

theorem forall₂_of_namedTypes {properties : Entries} (success : namedTypes ofSchema properties = .ok types) :
    List.Forall₂ IsNamed properties types := by
  induction properties generalizing types with
  | nil =>
    cases success
    exact .nil
  | cons property rest ih =>
    simp only [namedTypes, Outcome.bind_eq_ok, Outcome.pure_eq_ok] at success
    obtain ⟨_, _, type, typed, others, othersTyped, rfl⟩ := success
    exact .cons ⟨rfl, typed⟩ (ih othersTyped)

theorem fieldsOf_eq_map (indent : Int) (required : List String) (properties : List (String × TypeExpr)) :
    fieldsOf indent required properties =
      properties.map fun (name, type) => ⟨name, type.render indent, required.contains name⟩ := by
  induction properties with
  | nil => rfl
  | cons property rest ih => rw [fieldsOf, ih, List.map_cons]

/-- An object schema with a mapping of properties is a record. -/
theorem ofSchema_object {schema : Value} (found : schema.entries? = some entries)
    (isObject : Entries.field entries "type" = .text "object")
    (mapping : (Entries.field entries "properties").entries? = some properties) :
    ofSchema schema = .ok type ↔ ∃ types, namedTypes ofSchema properties = .ok types ∧
      .record types (requiredNames (Entries.field entries "required")) = type := by
  rw [ofSchema_eq, ofSchemaBy]
  simp only [found, isObject, mapping, Outcome.bind_eq_ok, Outcome.pure_eq_ok]

theorem ofSchema_array {schema : Value} (found : schema.entries? = some entries)
    (isArray : Entries.field entries "type" = .text "array") :
    ofSchema schema = .ok type ↔
      ∃ item, ofSchema (Entries.field entries "items") = .ok item ∧ .array item = type := by
  rw [ofSchema_eq, ofSchemaBy]
  simp only [found, isArray, Outcome.bind_eq_ok, Outcome.pure_eq_ok]

/-- The property under a name as it is written out. -/
def fieldOf (indent : Int) (required : List String) : String × TypeExpr → RecordField
  | (name, type) => ⟨name, type.render indent, required.contains name⟩

theorem render_record {types : List (String × TypeExpr)} (nonempty : types ≠ []) (required : List String)
    (indent : Int) : (record types required).render indent =
      renderRecord indent (types.map (fieldOf (indent + 1) required)) := by
  cases types with
  | nil => exact absurd rfl nonempty
  | cons named rest =>
    rw [render, fieldsOf_eq_map]
    rfl

/-- Among the required names are the texts of the list, and nothing else. -/
theorem contains_requiredNames {required : Value} (listed : required.items? = some names) :
    (requiredNames required).contains name = true ↔ .text name ∈ names := by
  rw [requiredNames, listed, List.contains_iff_mem, Option.getD_some, List.mem_filterMap]
  constructor
  · rintro ⟨value, member, isText⟩
    cases value with
    | text s => exact Option.some.inj isText ▸ member
    | _ => cases isText
  · exact fun member => ⟨.text name, member, rfl⟩

/-! ### Records inside records -/

/-- A schema stands in another one: this many mappings of properties below it, and among its items or
the items of these properties. -/
inductive Within : Nat → Value → Value → Prop where
  | here : Within 0 schema schema
  | items (found : node.entries? = some entries)
      (isArray : Entries.field entries "type" = .text "array")
      (inside : Within steps (Entries.field entries "items") schema) : Within steps node schema
  | property (found : node.entries? = some entries)
      (isObject : Entries.field entries "type" = .text "object")
      (mapping : (Entries.field entries "properties").entries? = some properties)
      (declared : (key, value) ∈ properties) (inside : Within steps value schema) :
      Within (steps + 1) node schema

theorem infix_renderArray (item : TypeExpr) (text : String) :
    text.toList <:+: (renderArray item text).toList := by
  unfold renderArray
  split
  · exact ⟨['('], ")[]".toList, by simp⟩
  · exact ⟨[], "[]".toList, by simp⟩

theorem infix_renderRecord {fields : List RecordField} (member : field ∈ fields) (indent : Int) :
    field.typeText.toList <:+: (renderRecord indent fields).toList := by
  have inLine : field.typeText.toList <:+: (field.render (indent + 1)).toList :=
    ⟨(indentation (indent + 1) ++ Literal.propertyKey field.name ++
      (if field.isRequired then "" else "?") ++ ": ").toList, ";".toList, by simp [RecordField.render]⟩
  refine inLine.trans (Text.infix_unlines ?_)
  simp only [List.mem_append, List.mem_cons, List.mem_map]
  exact .inl (.inr ⟨field, member, rfl⟩)

/-- A schema that has a type gives one to every schema that stands in it, and its text contains their
texts with their indentation. -/
theorem infix_render (within : Within steps node schema) (typed : ofSchema node = .ok whole) :
    ∃ type, ofSchema schema = .ok type ∧ ∀ indent : Int,
      (type.render (indent + steps)).toList <:+: (whole.render indent).toList := by
  induction within generalizing whole with
  | here => exact ⟨whole, typed, fun indent => by simp⟩
  | items found isArray _ ih =>
    obtain ⟨item, itemTyped, rfl⟩ := (ofSchema_array found isArray).mp typed
    obtain ⟨type, schemaTyped, inside⟩ := ih itemTyped
    refine ⟨type, schemaTyped, fun indent => ?_⟩
    rw [render]
    exact (inside indent).trans (infix_renderArray _ _)
  | @property entries properties key value steps _ _ found isObject mapping declared _ ih =>
    obtain ⟨types, named, rfl⟩ := (ofSchema_object found isObject mapping).mp typed
    obtain ⟨index, there, here⟩ := List.getElem_of_mem declared
    have each := forall₂_of_namedTypes named
    have sameLength : index < types.length := each.length_eq ▸ there
    have isNamed : IsNamed properties[index] types[index] := each.get there sameLength
    rw [here] at isNamed
    obtain ⟨type, schemaTyped, inside⟩ := ih isNamed.2
    refine ⟨type, schemaTyped, fun indent => ?_⟩
    have deeper : indent + ((steps + 1 : Nat) : Int) = indent + 1 + steps := by
      omega
    have present : types[index] ∈ types := List.getElem_mem sameLength
    let names := requiredNames (Entries.field entries "required")
    have member : fieldOf (indent + 1) names types[index] ∈ types.map (fieldOf (indent + 1) names) :=
      List.mem_map_of_mem present
    rw [render_record (List.ne_nil_of_mem present), deeper]
    exact (inside (indent + 1)).trans (infix_renderRecord member indent)

/-! ### Required properties -/

/-- A line declares the property under a key. It goes without a question mark if the key is demanded,
and only if the key has the text of a required name. -/
def DeclaresProperty (demanded : Value → Prop) (required : List Value) (indent : Int)
    (key value : Value) (line : String) : Prop :=
  ∃ type marker, ofSchema value = .ok type ∧ (marker = "" ∨ marker = "?") ∧
    line = indentation indent ++ Literal.propertyKey key.toText ++ marker ++ ": " ++
      type.render indent ++ ";" ∧
    (demanded key → marker = "") ∧ (marker = "" → ∃ name ∈ required, name.toText = key.toText)

/-- A text is a record with a line for each property, in order. -/
def DeclaresRecord (demanded : Value → Prop) (required : List Value) (indent : Int)
    (properties : Entries) (text : String) : Prop :=
  properties = [] ∧ text = "\x7b\x7d" ∨
    ∃ lines, text = Text.unlines ("\x7b" :: lines ++ [indentation indent ++ "\x7d"]) ∧
      List.Forall₂ (fun property line =>
        DeclaresProperty demanded required (indent + 1) property.1 property.2 line) properties lines

theorem render_fieldOf {required : Value} (listed : required.items? = some names) (indent : Int)
    {property : Value × Value} {named : String × TypeExpr} (isNamed : IsNamed property named) :
    DeclaresProperty (fun key => .text key.toText ∈ names) names indent property.1 property.2
      ((fieldOf indent (requiredNames required) named).render indent) := by
  obtain ⟨name, type⟩ := named
  obtain ⟨rfl, typed⟩ := isNamed
  have isIn : (requiredNames required).contains property.1.toText = true ↔
      .text property.1.toText ∈ names := contains_requiredNames listed
  rw [fieldOf, RecordField.render]
  by_cases isRequired : (requiredNames required).contains property.1.toText = true
  · have member := isIn.mp isRequired
    exact ⟨type, "", typed, .inl rfl, by rw [if_pos isRequired], fun _ => rfl, fun _ => ⟨_, member, rfl⟩⟩
  · refine ⟨type, "?", typed, .inr rfl, by rw [if_neg isRequired], ?_, ?_⟩
    · exact fun demanded => absurd (isIn.mpr demanded) isRequired
    · exact fun bare => absurd bare (by decide)

theorem declaresRecord_of_ofSchema {schema : Value} (found : schema.entries? = some entries)
    (isObject : Entries.field entries "type" = .text "object")
    (mapping : (Entries.field entries "properties").entries? = some properties)
    (listed : (Entries.field entries "required").items? = some required)
    (typed : ofSchema schema = .ok type) (indent : Int) :
    DeclaresRecord (fun key => .text key.toText ∈ required) required indent properties
      (type.render indent) := by
  obtain ⟨types, namedTyped, rfl⟩ := (ofSchema_object found isObject mapping).mp typed
  cases forall₂_of_namedTypes namedTyped with
  | nil => exact .inl ⟨rfl, rfl⟩
  | @cons property named properties types isNamed others =>
    right
    rw [render_record (List.cons_ne_nil named types)]
    refine ⟨_, rfl, ?_⟩
    rw [List.map_map, List.forall₂_map_right_iff]
    exact .cons (render_fieldOf listed _ isNamed) (others.imp fun _ _ => render_fieldOf listed _)

/-- A schema that has a type gives one to each object schema in it with a mapping of properties and a list
of required names, and its text contains the text of that one. It declares the properties in order, without
a question mark those whose key has a text that is a required name. A schema that has no type meets a
limit. -/
theorem render_required {node schema : Value} (within : Within steps node schema)
    (found : schema.entries? = some entries)
    (isObject : Entries.field entries "type" = .text "object")
    (mapping : (Entries.field entries "properties").entries? = some properties)
    (listed : (Entries.field entries "required").items? = some required) :
    (∃ whole type, ofSchema node = .ok whole ∧ ofSchema schema = .ok type ∧
      (type.render steps).toList <:+: (whole.render 0).toList ∧
      DeclaresRecord (fun key => .text key.toText ∈ required) required steps properties
        (type.render steps)) ∨
    ∃ limit, ofSchema node = .error limit.cause ∧ ¬node.Keeps limit := by
  have harmless := ofSchema_harmless node
  cases typed : ofSchema node with
  | error cause =>
    rw [typed] at harmless
    obtain ⟨limit, rfl, met⟩ := harmless.resolve_left id
    exact .inr ⟨limit, rfl, met⟩
  | ok whole =>
    obtain ⟨type, schemaTyped, inside⟩ := infix_render within typed
    refine .inl ⟨whole, type, rfl, schemaTyped, by simpa using inside 0, ?_⟩
    exact declaresRecord_of_ofSchema found isObject mapping listed schemaTyped steps

/-- The schema of a text. -/
def textSchema : Value :=
  .mapping [(.text "type", .text "string")]

def ownerProperties : Entries :=
  [(.text "id", textSchema), (.int 1, textSchema), (.text "name", textSchema)]

def ownerRequired : List Value :=
  [.text "id", .text "1", .int 2]

def ownerEntries : Entries := [
  (.text "type", .text "object"), (.text "properties", .mapping ownerProperties),
  (.text "required", .list ownerRequired)]

/-- A list of records with an owner each. -/
def ownedSchema : Value := .mapping [
  (.text "type", .text "array"),
  (.text "items", .mapping [
    (.text "type", .text "object"),
    (.text "properties", .mapping [(.text "owner", .mapping ownerEntries)])])]

/-- How it is written out one level in. -/
def ownerText : String :=
  Text.unlines ["\x7b", "        id: string;", "        '1': string;", "        name?: string;", "    \x7d"]

theorem render_required_owner :
    ∃ whole type, ofSchema ownedSchema = .ok whole ∧ ofSchema (.mapping ownerEntries) = .ok type ∧
      (type.render 1).toList <:+: (whole.render 0).toList ∧ type.render 1 = ownerText ∧
      DeclaresRecord (fun key => .text key.toText ∈ ownerRequired) ownerRequired 1 ownerProperties
        (type.render 1) := by
  have within : Within 1 ownedSchema (.mapping ownerEntries) :=
    .items rfl rfl (.property rfl rfl rfl List.mem_cons_self .here)
  have text : (ofSchema (.mapping ownerEntries)).toOption.map (·.render 1) = some ownerText := by
    decide +kernel
  obtain ⟨type, typed, written⟩ := Outcome.map_toOption_eq_some.mp text
  rcases render_required within rfl rfl rfl rfl with ⟨whole, other, wholeTyped, same, found⟩ | limited
  · obtain rfl := Except.ok.inj (typed.symm.trans same)
    exact ⟨whole, type, wholeTyped, typed, found.1, written, found.2⟩
  · obtain ⟨limit, _, met⟩ := limited
    refine absurd ?_ met
    cases limit <;> exact Entries.keeps_mapping.mpr (by decide +kernel)

def numberedRequired : List Value := [.int 404]

def numberedProperties : Entries := [(.int 404, textSchema)]

/-- The schema with this property. -/
def numberedEntries : Entries := [
  (.text "type", .text "object"), (.text "properties", .mapping numberedProperties),
  (.text "required", .list numberedRequired)]

/-- The property under the number is not taken for required. -/
theorem numbered_declared :
    ∃ type, ofSchema (.mapping numberedEntries) = .ok type ∧
      type.render 0 = Text.unlines ["\x7b", "    '404'?: string;", "\x7d"] ∧
      ¬ DeclaresRecord (· ∈ numberedRequired) numberedRequired 0 numberedProperties (type.render 0) := by
  have text : (ofSchema (.mapping numberedEntries)).toOption.map (·.render 0) =
      some (Text.unlines ["\x7b", "    '404'?: string;", "\x7d"]) := by decide +kernel
  obtain ⟨type, typed, rendered⟩ := Outcome.map_toOption_eq_some.mp text
  refine ⟨type, typed, rendered, ?_⟩
  rw [rendered]
  rintro (⟨empty, _⟩ | ⟨lines, text, each⟩)
  · cases empty
  · obtain ⟨line, _, ⟨property, marker, propertyTyped, _, spelled, demanded, _⟩, rest, rfl⟩ :=
      List.forall₂_cons_left_iff.mp each
    cases rest
    obtain rfl : TypeExpr.string = property := by
      have same : ofSchema textSchema = .ok .string := by rfl
      exact Except.ok.inj (same.symm.trans propertyTyped)
    rw [demanded List.mem_cons_self] at spelled
    subst spelled
    exact absurd text (by decide +kernel)

end TypeExpr

end TypedClient
