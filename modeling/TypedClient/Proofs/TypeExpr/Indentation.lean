import TypedClient.Method.Build
import TypedClient.Proofs.Source.Indentation
import TypedClient.Proofs.TypeExpr.RoundTrip

/-!
Type expressions at different indentations. A type expression that is printed at one indentation and
whose lines are then indented further has the text that it has at the deeper indentation, so the
response of a method, which is printed at the left margin, is laid out as the inputs, which are printed
where they stand.
-/

namespace TypedClient

def IsOneLine (text : String) : Prop :=
  ∀ c ∈ text.toList, c ≠ '\n'

theorem isOneLine_of_all {text : String} (noLineFeed : text.toList.all (· != '\n') = true) : IsOneLine text :=
  fun c member => bne_iff_ne.mp (List.all_eq_true.mp noLineFeed c member)

theorem forall_isOneLine {texts : List String}
    (noLineFeeds : texts.all (fun text => text.toList.all (· != '\n')) = true) :
    ∀ text ∈ texts, IsOneLine text :=
  fun text member => isOneLine_of_all (List.all_eq_true.mp noLineFeeds text member)

theorem isOneLine_append (first : IsOneLine front) (second : IsOneLine back) : IsOneLine (front ++ back) := by
  intro c member
  rw [String.toList_append, List.mem_append] at member
  exact member.elim (first c) (second c)

theorem isOneLine_indentation (steps : Int) : IsOneLine (indentation steps) := by
  intro c member
  rw [mem_indentation member]
  decide

theorem isOneLine_propertyKey (oneLine : IsOneLine name) : IsOneLine (Literal.propertyKey name) := by
  intro c member
  rcases Literal.mem_propertyKey member with rfl | rfl | inName
  · decide
  · decide
  · exact oneLine c inName

theorem isOneLine_string (oneLine : IsOneLine value) : IsOneLine (Literal.string value) := by
  intro c member
  rcases Literal.mem_string member with rfl | rfl | inValue
  · decide
  · decide
  · exact oneLine c inValue

theorem isOneLine_renderUnion (oneLine : ∀ member ∈ members, IsOneLine member) :
    IsOneLine (renderUnion members) := by
  induction members with
  | nil => exact fun c member => nomatch member
  | cons first rest ih =>
    have bar : IsOneLine "| " := isOneLine_of_all (by decide)
    have firstLine := isOneLine_append bar (oneLine first List.mem_cons_self)
    have others := ih fun other member => oneLine other (List.mem_cons_of_mem first member)
    cases rest with
    | nil => simpa [renderUnion] using firstLine
    | cons second rest =>
      intro c member
      rw [TypeExpr.toList_renderUnion_cons_cons, List.mem_append, List.mem_cons] at member
      rcases member with inFirst | rfl | later
      · exact firstLine c inFirst
      · decide
      · exact others c later

namespace TypeExpr

mutual

/-- The names and values that the text of a type expression repeats. -/
def repeatedTexts : TypeExpr → List String
  | .ref name => [name]
  | .record properties _ => repeatedTextsIn properties
  | .array item => item.repeatedTexts
  | .enumeration values => values
  | _ => []

/-- The names of properties, and the names and values that the texts of their types repeat. -/
def repeatedTextsIn : List (String × TypeExpr) → List String
  | [] => []
  | (name, type) :: rest => name :: (type.repeatedTexts ++ repeatedTextsIn rest)

end

/-- The type expression is written on one line wherever it stands. -/
def IsFlat : TypeExpr → Prop
  | .record _ _ | .array _ => False
  | _ => True

theorem isOneLine_of_isFlat {type : TypeExpr} (flat : type.IsFlat)
    (oneLine : ∀ text ∈ type.repeatedTexts, IsOneLine text) (indent : Int) :
    IsOneLine (type.render indent) := by
  have words : ∀ word ∈ ["unknown", "Record<string, unknown>", "string", "number", "boolean"],
      IsOneLine word := forall_isOneLine (by decide)
  cases type with
  | record => exact flat.elim
  | array => exact flat.elim
  | ref name =>
    rw [render]
    split
    · exact words _ (by simp [unknownText])
    · exact oneLine name List.mem_cons_self
  | enumeration values =>
    refine isOneLine_renderUnion fun member present => ?_
    obtain ⟨value, listed, rfl⟩ := List.mem_map.mp present
    exact isOneLine_string (oneLine value listed)
  | _ => exact words _ (by simp [render, unknownText])

theorem render_ne_empty_of_isFlat {type : TypeExpr} (flat : type.IsFlat) (written : type ≠ .enumeration [])
    (indent : Int) : type.render indent ≠ "" := by
  cases type with
  | record => exact flat.elim
  | array => exact flat.elim
  | ref name =>
    rw [render]
    split
    · decide
    · rename_i named
      exact fun empty => named (String.isEmpty_iff.mpr empty)
  | enumeration values =>
    have some : values ≠ [] := fun empty => written (congrArg enumeration empty)
    obtain ⟨chars, bar⟩ := exists_bar_renderUnion some
    intro empty
    rw [render] at empty
    rw [empty] at bar
    cases bar
  | _ => simp [render, unknownText]

/-- An array puts something on the same line around the text of its elements. -/
theorem exists_renderArray (item : TypeExpr) :
    ∃ front back, IsOneLine front ∧ IsOneLine back ∧ back ≠ "" ∧
      ∀ text, renderArray item text = front ++ text ++ back := by
  have marks : ∀ mark ∈ ["", "(", ")[]", "[]"], IsOneLine mark := forall_isOneLine (by decide)
  cases item with
  | enumeration values =>
    exact ⟨"(", ")[]", marks _ (by simp), marks _ (by simp), by decide, fun text => rfl⟩
  | _ => exact ⟨"", "[]", marks _ (by simp), marks _ (by simp), by decide, fun text => by simp [renderArray]⟩

/-! ### No line is empty -/

theorem filled_of_isFlat {type : TypeExpr} (flat : type.IsFlat)
    (oneLine : ∀ text ∈ type.repeatedTexts, IsOneLine text) (indent : Int) :
    type = .enumeration [] ∨ Text.Filled (type.render indent).toList := by
  by_cases written : type = .enumeration []
  · exact .inl written
  · refine .inr (.line (isOneLine_of_isFlat flat oneLine indent) fun empty => ?_)
    exact render_ne_empty_of_isFlat flat written indent (String.toList_eq_nil_iff.mp empty)

/-- Something on the same line behind a text that is filled or empty makes it filled. -/
theorem filled_append (front : IsOneLine before) (back : IsOneLine behind) (nonempty : behind ≠ "")
    (filled : text = "" ∨ Text.Filled text.toList) : Text.Filled (before ++ text ++ behind).toList := by
  rw [String.append_assoc, String.toList_append, String.toList_append]
  refine .behind front ?_
  rcases filled with rfl | filled
  · exact .line back fun empty => nonempty (String.toList_eq_nil_iff.mp empty)
  · exact filled.before back

/-- What stands between the indentation and the type on the line of a property. -/
def fieldStart (name : String) (isRequired : Bool) : String :=
  Literal.propertyKey name ++ (if isRequired then "" else "?") ++ ": "

theorem isOneLine_fieldStart (oneLine : IsOneLine name) (isRequired : Bool) :
    IsOneLine (fieldStart name isRequired) := by
  have marks : ∀ mark ∈ ["", "?", ": "], IsOneLine mark := forall_isOneLine (by decide)
  have marker : IsOneLine (if isRequired then "" else "?") := by
    split
    · exact marks _ (by simp)
    · exact marks _ (by simp)
  exact isOneLine_append (isOneLine_append (isOneLine_propertyKey oneLine) marker) (marks _ (by simp))

theorem render_field (field : RecordField) (indent : Int) :
    field.render indent =
      indentation indent ++ fieldStart field.name field.isRequired ++ field.typeText ++ ";" := by
  simp [RecordField.render, fieldStart, String.append_assoc]

theorem fieldLines_cons (field : RecordField) (indent : Int) (fields : List RecordField) :
    fieldLines indent (field :: fields) =
      '\n' :: (indentation indent).toList ++ ((fieldStart field.name field.isRequired).toList ++
        (field.typeText.toList ++ (";".toList ++ fieldLines indent fields))) := by
  simp [fieldLines, render_field]

theorem isOneLine_semicolon : IsOneLine ";" :=
  isOneLine_of_all (by decide)

mutual

/-- In the text of a type expression no line is empty, but the union of no members has an empty text. -/
theorem filled_render (type : TypeExpr) (oneLine : ∀ text ∈ type.repeatedTexts, IsOneLine text)
    (indent : Int) : type = .enumeration [] ∨ Text.Filled (type.render indent).toList := by
  cases type with
  | array item =>
    obtain ⟨front, back, oneLineFront, oneLineBack, nonempty, around⟩ := exists_renderArray item
    rw [render, around]
    refine .inr (filled_append oneLineFront oneLineBack nonempty ?_)
    exact (filled_render item oneLine indent).imp_left fun union => by rw [union]; rfl
  | record properties required =>
    right
    cases properties with
    | nil => exact .line (isOneLine_of_all (by unfold render; decide)) (by simp [render])
    | cons property rest =>
      have opening : Text.Filled "\x7b".toList := .line (isOneLine_of_all (by decide)) (by decide)
      have closing : Text.Filled (indentation indent ++ "\x7d").toList := by
        rw [String.toList_append]
        exact .behind (isOneLine_indentation indent) (.line (isOneLine_of_all (by decide)) (by decide))
      rw [render, renderRecord, List.cons_append]
      refine .unlines fun line member => ?_
      rcases List.mem_cons.mp member with rfl | member
      · exact opening
      · rcases List.mem_append.mp member with inFields | last
        · obtain ⟨field, present, rfl⟩ := List.mem_map.mp inFields
          exact filled_fieldsOf (property :: rest) oneLine (indent + 1) required field present
        · exact List.mem_singleton.mp last ▸ closing
  | _ => exact filled_of_isFlat (by trivial) oneLine indent

/-- No line of properties is empty. -/
theorem filled_fieldsOf (properties : List (String × TypeExpr))
    (oneLine : ∀ text ∈ repeatedTextsIn properties, IsOneLine text) (indent : Int)
    (required : List String) : ∀ field ∈ fieldsOf indent required properties,
      Text.Filled (field.render indent).toList := by
  cases properties with
  | nil => exact fun field member => nomatch member
  | cons property rest =>
    obtain ⟨name, type⟩ := property
    intro field member
    rcases List.mem_cons.mp member with rfl | later
    · have inType : ∀ text ∈ type.repeatedTexts, IsOneLine text := fun text inside =>
        oneLine text (List.mem_cons_of_mem name (List.mem_append_left _ inside))
      have start := isOneLine_append (isOneLine_indentation indent)
        (isOneLine_fieldStart (oneLine name List.mem_cons_self) (required.contains name))
      rw [render_field]
      refine filled_append start isOneLine_semicolon (by decide) ?_
      exact (filled_render type inType indent).imp_left fun union => by rw [union]; rfl
    · exact filled_fieldsOf rest (fun text inside =>
        oneLine text (List.mem_cons_of_mem name (List.mem_append_right _ inside))) indent required field later

end

/-! ### Deeper indentation -/

theorem shifted_lineFeed_indentation {indent level : Int} (nonneg : 0 ≤ indent) (deeper : 0 ≤ level) :
    Text.shifted level ('\n' :: (indentation indent).toList) =
      '\n' :: (indentation (indent + level)).toList := by
  have plain := Text.shifted_of_plain level (isOneLine_indentation indent)
  rw [Int.add_comm indent level, indentation_add deeper nonneg, String.toList_append,
    Text.shifted_lineFeed, plain]

mutual

/-- A type expression whose further lines are indented has the text that it has further inside. -/
theorem shifted_render (type : TypeExpr) (oneLine : ∀ text ∈ type.repeatedTexts, IsOneLine text)
    {indent level : Int} (nonneg : 0 ≤ indent) (deeper : 0 ≤ level) :
    Text.shifted level (type.render indent).toList = (type.render (indent + level)).toList := by
  cases type with
  | array item =>
    obtain ⟨front, back, oneLineFront, oneLineBack, _, around⟩ := exists_renderArray item
    rw [render, render, around, around]
    simp only [String.toList_append, Text.shifted_append, Text.shifted_of_plain level oneLineFront,
      Text.shifted_of_plain level oneLineBack, shifted_render item oneLine nonneg deeper]
  | record properties required =>
    cases properties with
    | nil => exact Text.shifted_of_plain level (isOneLine_of_all (by unfold render; decide))
    | cons property rest =>
      have inside : 0 ≤ indent + 1 := by
        omega
      have steps : indent + 1 + level = indent + level + 1 := by
        omega
      have fields := shifted_fieldsOf (property :: rest) oneLine inside deeper required
      have braces : ∀ brace ∈ ['\x7b', '\x7d'], Text.shifted level [brace] = [brace] := by
        intro brace member
        refine Text.shifted_of_plain level fun c inside => ?_
        rcases List.mem_singleton.mp inside with rfl
        rcases List.mem_cons.mp member with rfl | last
        · decide
        · exact List.mem_singleton.mp last ▸ by decide
      rw [steps] at fields
      rw [render, render, toList_renderRecord, toList_renderRecord, ← List.singleton_append,
        Text.shifted_append, Text.shifted_append, Text.shifted_append, braces _ (by simp), fields,
        shifted_lineFeed_indentation nonneg deeper, braces _ (by simp), List.singleton_append]
  | _ => exact Text.shifted_of_plain level (isOneLine_of_isFlat (by trivial) oneLine indent)

/-- So have the lines of properties. -/
theorem shifted_fieldsOf (properties : List (String × TypeExpr))
    (oneLine : ∀ text ∈ repeatedTextsIn properties, IsOneLine text) {indent level : Int}
    (nonneg : 0 ≤ indent) (deeper : 0 ≤ level) (required : List String) :
    Text.shifted level (fieldLines indent (fieldsOf indent required properties)) =
      fieldLines (indent + level) (fieldsOf (indent + level) required properties) := by
  cases properties with
  | nil => rfl
  | cons property rest =>
    obtain ⟨name, type⟩ := property
    have inType := shifted_render type (fun text inside =>
      oneLine text (List.mem_cons_of_mem name (List.mem_append_left _ inside))) nonneg deeper
    have others := shifted_fieldsOf rest (fun text inside =>
      oneLine text (List.mem_cons_of_mem name (List.mem_append_right _ inside))) nonneg deeper required
    have start := Text.shifted_of_plain level
      (isOneLine_fieldStart (oneLine name List.mem_cons_self) (required.contains name))
    have semicolon := Text.shifted_of_plain level isOneLine_semicolon
    rw [fieldsOf, fieldsOf, fieldLines_cons, fieldLines_cons, Text.shifted_append, Text.shifted_append,
      Text.shifted_append, Text.shifted_append, shifted_lineFeed_indentation nonneg deeper, start, inType,
      semicolon, others]

end

/-- The type of a response, which the return statement of a method has at the left margin, is moved with
the lines of the statement to where it stands in the method. -/
theorem exists_indentLines_response {operation : Operation} {type : TypeExpr}
    (filled : Text.Filled (type.render 0).toList)
    (oneLine : ∀ text ∈ type.repeatedTexts, IsOneLine text)
    (returned : operation.response = some content) (typed : content.type = type) :
    ∃ answer later, operation.statements.getLast? = some answer ∧
      indentLines 2 answer = indentation 2 ++ "return adapter<" ++ type.render 2 ++ ">(" ++ later := by
  have written : type.render 0 ≠ "" := fun empty => filled.ne_nil (String.toList_eq_nil_iff.mpr empty)
  let later := Text.commaSeparated [operation.requestText] ++ ");"
  have answered : operation.statements.getLast? =
      some ("return adapter<" ++ type.render 0 ++ ">(" ++ later) := by
    have response : operation.responseText = type.render 0 := by
      rw [Operation.responseText, returned]
      exact congrArg (render 0) typed
    have last : "return " ++ Expression.call "adapter" operation.responseText [operation.requestText] ++
        ";" = "return adapter<" ++ type.render 0 ++ ">(" ++ later := by
      apply String.toList_inj.mp
      simp [Expression.call, response, written, later]
    rw [Operation.statements, List.getLast?_append, last]
    rfl
  have marks : ∀ mark ∈ ["return adapter<", ">("], IsOneLine mark := forall_isOneLine (by decide)
  have start := filled_append (marks "return adapter<" (by simp)) (marks ">(" (by simp)) (by decide)
    (.inr filled)
  have spelled : ("return adapter<" ++ type.render 0 ++ ">(" ++ later).toList =
      ("return adapter<" ++ type.render 0 ++ ">(").toList ++ later.toList := String.toList_append
  obtain ⟨after, moved, _⟩ := exists_toList_indentLines start spelled 2
  refine ⟨_, String.ofList after, answered, String.toList_inj.mp ?_⟩
  have inType := shifted_render type oneLine (Int.le_refl 0) (by decide : (0 : Int) ≤ 2)
  rw [Int.zero_add] at inType
  rw [moved]
  simp only [String.toList_append, Text.shifted_append, inType, String.toList_ofList, List.append_assoc,
    Text.shifted_of_plain 2 (marks "return adapter<" (by simp)), Text.shifted_of_plain 2 (marks ">(" (by simp))]

/-- A type expression whose names and values have no line feed has, when it is printed at one indentation
and its lines are indented further, the text that it has at the deeper indentation. In a method the type
of the response has the text that it would have among the inputs. -/
theorem indentLines_render (type : TypeExpr) (written : type ≠ .enumeration [])
    (oneLine : ∀ text ∈ type.repeatedTexts, '\n' ∉ text.toList) :
    (∀ indent level : Nat,
      indentLines level (type.render indent) = indentation level ++ type.render (indent + level)) ∧
      ∀ (operation : Operation) (content : Content),
        operation.response = some content → content.type = type →
        ∃ answer later, operation.statements.getLast? = some answer ∧
          indentLines 2 answer = indentation 2 ++ "return adapter<" ++ type.render 2 ++ ">(" ++ later := by
  have plain : ∀ text ∈ type.repeatedTexts, IsOneLine text := fun text member c inside lineFeed =>
    oneLine text member (lineFeed ▸ inside)
  have filled (indent : Int) := (filled_render type plain indent).resolve_left written
  constructor
  · intro indent level
    apply String.toList_inj.mp
    rw [toList_indentLines (filled indent), String.toList_append,
      shifted_render type plain (Int.natCast_nonneg indent) (Int.natCast_nonneg level)]
  · intro operation content returned typed
    exact exists_indentLines_response (filled 0) plain returned typed

/-- A record with an array of records in it and names and values that need quotes. -/
def nestedRecord : TypeExpr :=
  .record [("id", .string), ("shelf-mark", .enumeration ["a;b", "c\x27"]),
    ("owners", .array (.record [("name", .ref "Name"), ("gone", .enumeration [])] ["name"]))] ["id"]

theorem indentLines_render_nestedRecord :
    nestedRecord ≠ .enumeration [] ∧ (∀ text ∈ nestedRecord.repeatedTexts, '\n' ∉ text.toList) ∧
      nestedRecord.render 1 = Text.unlines ["\x7b", "        id: string;",
        "        'shelf-mark'?: | 'a;b' | 'c\\'';", "        owners?: \x7b", "            name: Name;",
        "            gone?: ;", "        \x7d[];", "    \x7d"] ∧
      indentLines 2 (nestedRecord.render 1) = indentation 2 ++ nestedRecord.render 3 := by
  have oneLine : ∀ text ∈ nestedRecord.repeatedTexts, '\n' ∉ text.toList := by decide +kernel
  have written : nestedRecord ≠ .enumeration [] := by simp [nestedRecord]
  exact ⟨written, oneLine, by decide +kernel, (indentLines_render nestedRecord written oneLine).1 1 2⟩

end TypeExpr

end TypedClient
