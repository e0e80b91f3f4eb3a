import TypedClient.Proofs.Source.Literals
import TypedClient.Proofs.TypeExpr.Required
import TypedClient.TypeExpr.Basic

/-!
The string literals in the text of a type expression: the values of its enumerations and the names of
properties that need quotes, in order. What else a text repeats, it repeats outside of literals: the names
of models.
-/

namespace TypedClient

open Script

/-- The name of a property as the text of a literal, if it needs quotes. -/
def Literal.quotedKey (name : String) : List String :=
  if Literal.isBareKey name then [] else [name]

namespace TypeExpr

mutual

/-- The texts that stand as literals in the text of a type expression. -/
def literals : TypeExpr → List String
  | .record properties _ => literalsIn properties
  | .array item => item.literals
  | .enumeration values => values
  | _ => []

/-- The texts that stand as literals in the lines of properties. -/
def literalsIn : List (String × TypeExpr) → List String
  | [] => []
  | (name, type) :: rest => Literal.quotedKey name ++ type.literals ++ literalsIn rest

end

end TypeExpr

namespace Script

variable {outside : Char → Prop} (apart : ∀ c, c ≠ '\x27' → outside c)

include apart

theorem holds_propertyKey {name : String} (raw : ∀ text ∈ Literal.quotedKey name, text.toList.all standsRaw = true) :
    HoldsLiterals outside (Literal.propertyKey name).toList (Literal.quotedKey name) := by
  unfold Literal.quotedKey Literal.propertyKey at *
  split
  · rename_i bare
    refine .done fun c member => ?_
    rcases Literal.isBareKey_cases bare with identifier | ⟨word, spelled, identifier⟩
    · exact outside_of_isIdentifier apart identifier member
    · rw [spelled, List.mem_append, List.mem_singleton] at member
      rcases member with inWord | rfl
      · exact outside_of_isIdentifier apart identifier inWord
      · exact apart '\n' (by decide)
  · rename_i quoted
    rw [if_neg quoted] at raw
    exact .ofString (raw name List.mem_cons_self)

theorem holds_field {field : RecordField} (indent : Int)
    (raw : ∀ text ∈ Literal.quotedKey field.name, text.toList.all standsRaw = true)
    (inType : HoldsLiterals outside field.typeText.toList values) :
    HoldsLiterals outside (field.render indent).toList (Literal.quotedKey field.name ++ values) := by
  have marker : HoldsLiterals outside (if field.isRequired then "" else "?").toList [] := by
    split
    · exact holds_word apart "" (by decide)
    · exact holds_word apart "?" (by decide)
  have key := (holds_indentation apart indent).join (holds_propertyKey apart raw)
  have colon := (key.join marker).join (holds_word apart ": " (by decide))
  simpa [RecordField.render] using (colon.join inType).join (holds_word apart ";" (by decide))

/-- A record type has the literals of its keys and of the types behind them. -/
theorem holds_renderRecord {ι : Type} {items : List ι} {field : ι → RecordField} {values : ι → List String}
    (indent : Int)
    (raw : ∀ item ∈ items, ∀ text ∈ Literal.quotedKey (field item).name, text.toList.all standsRaw = true)
    (inTypes : ∀ item ∈ items, HoldsLiterals outside (field item).typeText.toList (values item)) :
    HoldsLiterals outside (renderRecord indent (items.map field)).toList
      (items.flatMap fun item => Literal.quotedKey (field item).name ++ values item) := by
  have opening := holds_word apart "\x7b" (by decide)
  have closing := (holds_indentation apart indent).join (holds_word apart "\x7d" (by decide))
  have fields := LinesHold.flatMap fun item member =>
    holds_field apart (indent + 1) (raw item member) (inTypes item member)
  have whole := LinesHold.cons opening (fields.append (.singleton closing))
  rw [renderRecord, List.map_map]
  simpa [Function.comp_def] using holds_unlines apart whole

theorem holds_renderUnion (raw : ∀ value ∈ values, value.toList.all standsRaw = true) :
    HoldsLiterals outside (renderUnion (values.map Literal.string)).toList values := by
  have bar := holds_word apart "| " (by decide)
  have members : LinesHold outside (values.map fun value => "| " ++ Literal.string value)
      (values.flatMap ([·])) := .flatMap fun value member => bar.join (.ofString (raw value member))
  have whole := members.intercalate fun c (member : c ∈ " ".toList) =>
    apart c fun same => absurd (same ▸ member) (by decide)
  rw [List.flatMap_singleton', ← Function.comp_def, ← List.map_map] at whole
  exact whole

end Script

namespace TypeExpr

theorem literalsIn_eq_flatMap (properties : List (String × TypeExpr)) :
    literalsIn properties = properties.flatMap fun (name, type) => Literal.quotedKey name ++ type.literals := by
  induction properties with
  | nil => rfl
  | cons property rest ih => rw [literalsIn, ih, List.flatMap_cons]

variable {outside : Char → Prop}

mutual

/-- The text of a type expression holds its literals when no line ends in them, and outside of them the
names of models and what is no apostrophe. -/
theorem holds_render (apart : ∀ c, c ≠ '\x27' → outside c) (type : TypeExpr)
    (raw : ∀ text ∈ type.literals, text.toList.all standsRaw = true)
    (named : ∀ name ∈ type.references, ∀ c ∈ name.toList, outside c) (indent : Int) :
    HoldsLiterals outside (type.render indent).toList type.literals := by
  cases type with
  | ref name =>
    rw [render]
    split
    · exact holds_word apart "unknown" (by decide)
    · exact .done (named name List.mem_cons_self)
  | array item =>
    have inItem := holds_render apart item raw named indent
    have brackets := holds_word apart "[]" (by decide)
    cases item with
    | enumeration values =>
      have opening := holds_word apart "(" (by decide)
      have closing := holds_word apart ")[]" (by decide)
      simpa [render, renderArray, literals] using (opening.join inItem).join closing
    | _ => simpa [render, renderArray, literals] using inItem.join brackets
  | record properties required =>
    cases properties with
    | nil => exact holds_word apart "\x7b\x7d" (by decide)
    | cons property rest =>
      have each := holds_each apart (property :: rest) raw named (indent + 1)
      rw [literals, literalsIn_eq_flatMap] at raw ⊢
      rw [render, fieldsOf_eq_map]
      refine holds_renderRecord apart indent (fun entry member text inKey => raw text ?_) each
      exact List.mem_flatMap.mpr ⟨entry, member, List.mem_append_left _ inKey⟩
  | enumeration values => exact holds_renderUnion apart raw
  | openRecord => exact holds_word apart "Record<string, unknown>" (by decide)
  | string => exact holds_word apart "string" (by decide)
  | number => exact holds_word apart "number" (by decide)
  | boolean => exact holds_word apart "boolean" (by decide)
  | unknown declared => exact holds_word apart "unknown" (by decide)

/-- So do the texts of the types of properties. -/
theorem holds_each (apart : ∀ c, c ≠ '\x27' → outside c) (properties : List (String × TypeExpr))
    (raw : ∀ text ∈ literalsIn properties, text.toList.all standsRaw = true)
    (named : ∀ name ∈ referencesIn properties, ∀ c ∈ name.toList, outside c) (indent : Int) :
    ∀ property ∈ properties,
      HoldsLiterals outside (property.2.render indent).toList property.2.literals := by
  cases properties with
  | nil => exact fun property member => nomatch member
  | cons first rest =>
    obtain ⟨name, type⟩ := first
    intro property member
    rcases List.mem_cons.mp member with rfl | later
    · refine holds_render apart type (fun text inside => raw text ?_) (fun other inside => named other ?_) indent
      · exact List.mem_append_left _ (List.mem_append_right _ inside)
      · exact List.mem_append_left _ inside
    · refine holds_each apart rest (fun text inside => raw text ?_) (fun other inside => named other ?_) indent
        property later
      · exact List.mem_append_right _ inside
      · exact List.mem_append_right _ inside

end

end TypeExpr

end TypedClient
