import TypedClient.Proofs.Name.Identifier
import TypedClient.Proofs.Text.Characters
import TypedClient.Proofs.TypeExpr.Reader

namespace TypedClient.TypeExpr

/-- What may stand behind a type expression: brackets, or the end of a declaration. -/
def Closes (rest : List Char) : Prop :=
  ∃ c tail, rest = c :: tail ∧ (c = '[' ∨ c = ';')

theorem closes_brackets (rest : List Char) : Closes ('[' :: ']' :: rest) :=
  ⟨_, _, rfl, .inl rfl⟩

theorem closes_semicolon (rest : List Char) : Closes (';' :: rest) :=
  ⟨_, _, rfl, .inr rfl⟩

theorem readWord_identifier (identifier : Identifier.isIdentifier word.toList = true)
    (closes : Closes rest) : readWord (word.toList ++ rest) = (ofWord word, rest) := by
  obtain ⟨c, tail, rfl, mark⟩ := closes
  have stops : Identifier.isPart c = false := by
    rcases mark with rfl | rfl <;> decide
  have noArguments : (c :: tail).dropPrefix? "<string, unknown>".toList = none := by
    rcases mark with rfl | rfl <;> rfl
  simp only [readWord, Identifier.dropWhile_isPart identifier stops,
    Identifier.takeWhile_isPart identifier stops, noArguments, String.ofList_toList]

theorem readWord_openRecord (rest : List Char) :
    readWord ("Record<string, unknown>".toList ++ rest) = (.openRecord, rest) := by
  have parts : ("Record".toList ++ '<' :: ("string, unknown>".toList ++ rest)).dropWhile
      Identifier.isPart = "<string, unknown>".toList ++ rest :=
    Identifier.dropWhile_isPart (by decide) (by decide) _
  have whole : "Record<string, unknown>".toList ++ rest =
      "Record".toList ++ '<' :: ("string, unknown>".toList ++ rest) := by simp
  simp only [readWord, whole, parts, Text.dropPrefix?_append_self]

/-- Anything that starts as an identifier is read as a word. -/
theorem readType_word (start : Identifier.isStart c = true) (fuel : Nat) (chars : List Char) :
    readType (fuel + 1) (c :: chars) =
      some (readArrays (readWord (c :: chars)).1 (readWord (c :: chars)).2) := by
  rw [readType.eq_def]
  split <;> simp_all [Identifier.isStart]

theorem readType_identifier (word : String)
    (identifier : Identifier.isIdentifier word.toList = true) (closes : Closes rest) (fuel : Nat) :
    readType (fuel + 1) (word.toList ++ rest) = some (readArrays (ofWord word) rest) := by
  obtain ⟨c, chars, same, start⟩ := Identifier.exists_cons_of_isIdentifier identifier
  have whole := readWord_identifier identifier closes
  rw [same, List.cons_append] at whole ⊢
  rw [readType_word start, whole]

theorem readString_anyChar (text rest : List Char) :
    Literal.readString anyChar (text.flatMap Literal.escape ++ '\x27' :: rest) = some (text, rest) :=
  Literal.readString_flatMap text rest fun _ _ => rfl

theorem toList_member (value : String) (rest : List Char) :
    ("| " ++ Literal.string value).toList ++ rest =
      ['|', ' ', '\x27'] ++ (value.toList.flatMap Literal.escape ++ '\x27' :: rest) := by
  simp [Literal.toList_string]

theorem readMembers_last (value : String) (fuel : Nat) (stops : c ≠ ' ') (rest : List Char) :
    readMembers (fuel + 1) (("| " ++ Literal.string value).toList ++ c :: rest) =
      some ([value], c :: rest) := by
  rw [toList_member, readMembers]
  simp only [Text.dropPrefix?_append_self, readString_anyChar,
    Option.bind_eq_bind, Option.bind_some, String.ofList_toList]
  split
  · rename_i space
    exact False.elim (stops (List.cons.inj space).1)
  · rfl

theorem readMembers_more (value : String) (fuel : Nat) (more : List Char) :
    readMembers (fuel + 1) (("| " ++ Literal.string value).toList ++ ' ' :: more) =
      (readMembers fuel more).map fun (values, after) => (value :: values, after) := by
  rw [toList_member, readMembers]
  simp only [Text.dropPrefix?_append_self, readString_anyChar,
    Option.bind_eq_bind, Option.bind_some, String.ofList_toList]
  cases readMembers fuel more <;> rfl

theorem toList_renderUnion_cons_cons (first second : String) (rest : List String) :
    (renderUnion (first :: second :: rest)).toList =
      ("| " ++ first).toList ++ ' ' :: (renderUnion (second :: rest)).toList := by
  simp only [renderUnion, List.map_cons, String.intercalate_cons_cons, String.toList_append]
  simp

theorem exists_bar_renderUnion (nonempty : values ≠ []) :
    ∃ chars, (renderUnion (values.map Literal.string)).toList = '|' :: chars := by
  cases values with
  | nil => exact False.elim (nonempty rfl)
  | cons value values =>
    rw [List.map_cons, renderUnion, List.map_cons, Text.toList_intercalate_cons]
    exact ⟨_, by simp; rfl⟩

/-- Members of a union are read up to what does not go on with a space. -/
theorem readMembers_renderUnion (nonempty : values ≠ [])
    (enough : (renderUnion (values.map Literal.string)).toList.length < fuel) (stops : c ≠ ' ')
    (rest : List Char) :
    readMembers fuel ((renderUnion (values.map Literal.string)).toList ++ c :: rest) =
      some (values, c :: rest) := by
  induction values generalizing fuel with
  | nil => exact False.elim (nonempty rfl)
  | cons value values ih =>
    obtain ⟨fuel, rfl⟩ := Nat.exists_eq_succ_of_ne_zero (Nat.ne_zero_of_lt enough)
    cases values with
    | nil =>
      rw [List.map_singleton, renderUnion, List.map_singleton, String.intercalate_singleton]
      exact readMembers_last value fuel stops rest
    | cons second values =>
      rw [List.map_cons, List.map_cons, toList_renderUnion_cons_cons] at enough ⊢
      rw [List.append_assoc, List.cons_append, readMembers_more]
      have enoughLater : (renderUnion ((second :: values).map Literal.string)).toList.length < fuel := by
        simp only [List.length_append, List.length_cons] at enough
        rw [List.map_cons]
        omega
      rw [← List.map_cons, ih (by simp) enoughLater]
      rfl

theorem isStart_ne (start : Identifier.isStart c = true) :
    c ≠ '\x27' ∧ isLayout c = false ∧ c ≠ '\x7d' := by
  have noSpace := Identifier.ne_of_isStart start (c := ' ') (by decide)
  have noLineFeed := Identifier.ne_of_isStart start (c := '\n') (by decide)
  exact ⟨Identifier.ne_of_isStart start (by decide), by simp [isLayout, noSpace, noLineFeed],
    Identifier.ne_of_isStart start (by decide)⟩

/-- The name of a property does not start like the space between properties or the end of a record. -/
theorem exists_cons_propertyKey (name : String) :
    ∃ c chars, (Literal.propertyKey name).toList = c :: chars ∧ isLayout c = false ∧ c ≠ '\x7d' := by
  unfold Literal.propertyKey
  split
  · rename_i bare
    rcases Literal.isBareKey_cases bare with identifier | ⟨word, followed, identifier⟩
    · obtain ⟨c, chars, same, start⟩ := Identifier.exists_cons_of_isIdentifier identifier
      exact ⟨c, chars, same, (isStart_ne start).2⟩
    · obtain ⟨c, chars, same, start⟩ := Identifier.exists_cons_of_isIdentifier identifier
      exact ⟨c, chars ++ ['\n'], by rw [followed, same, List.cons_append], (isStart_ne start).2⟩
  · exact ⟨_, _, Literal.toList_string name, by decide, by decide⟩

/-- A bare name is read up to the mark behind it, with a line feed that belongs to it. -/
theorem readKey_bare (identifier : Identifier.isIdentifier word = true) (chars : List Char) :
    readKey (word ++ chars) =
      match (word ++ chars).dropWhile Identifier.isPart with
      | '\n' :: after =>
        some (String.ofList ((word ++ chars).takeWhile Identifier.isPart ++ ['\n']), after)
      | after => some (String.ofList ((word ++ chars).takeWhile Identifier.isPart), after) := by
  obtain ⟨c, rest, rfl, start⟩ := Identifier.exists_cons_of_isIdentifier identifier
  rw [List.cons_append, readKey.eq_def]
  split
  · rename_i quoted
    exact False.elim ((isStart_ne start).1 (List.cons.inj quoted).1)
  · rfl

theorem readKey_propertyKey (name : String) (mark : c = '?' ∨ c = ':') (rest : List Char) :
    readKey ((Literal.propertyKey name).toList ++ c :: rest) = some (name, c :: rest) := by
  have stops : Identifier.isPart c = false ∧ c ≠ '\n' := by
    rcases mark with rfl | rfl <;> decide
  unfold Literal.propertyKey
  split
  · rename_i bare
    rcases Literal.isBareKey_cases bare with identifier | ⟨word, followed, identifier⟩
    · rw [readKey_bare identifier, Identifier.dropWhile_isPart identifier stops.1,
        Identifier.takeWhile_isPart identifier stops.1]
      split
      · rename_i lineFeed
        exact False.elim (stops.2 (List.cons.inj lineFeed).1)
      · rw [String.ofList_toList]
    · rw [followed, List.append_assoc, List.singleton_append, readKey_bare identifier,
        Identifier.dropWhile_isPart identifier (by decide),
        Identifier.takeWhile_isPart identifier (by decide), ← followed, String.ofList_toList]
      rfl
  · have quoted : (Literal.string name).toList ++ c :: rest =
        '\x27' :: (name.toList.flatMap Literal.escape ++ '\x27' :: c :: rest) := by
      simp [Literal.toList_string]
    rw [quoted, readKey, readString_anyChar]
    simp

theorem readMarker_of (isRequired : Bool) (rest : List Char) :
    readMarker ((if isRequired then "" else "?").toList ++ ": ".toList ++ rest) =
      some (isRequired, rest) := by
  cases isRequired <;> rfl

theorem dropWhile_isLayout (indent : Int) (stops : isLayout c = false) (rest : List Char) :
    ('\n' :: (indentation indent).toList ++ c :: rest).dropWhile isLayout = c :: rest := by
  have spaces : ∀ space ∈ '\n' :: (indentation indent).toList, isLayout space = true := by
    intro space member
    rcases List.mem_cons.mp member with lineFeed | inside
    · exact lineFeed ▸ rfl
    · rw [mem_indentation inside]
      rfl
  rw [List.dropWhile_append_of_pos spaces]
  simp [stops]

theorem readFields_end (fuel : Nat) (indent : Int) (rest : List Char) :
    readFields (fuel + 1) ('\n' :: (indentation indent).toList ++ '\x7d' :: rest) =
      some ([], rest) := by
  rw [readFields, dropWhile_isLayout indent (by decide)]
  rfl

/-- A property is read from its line when its type is read from the text of the type. -/
theorem readFields_line {field : RecordField} {type : TypeExpr}
    (typeRead : ∀ chars, readType fuel (field.typeText.toList ++ ';' :: chars) =
      some (type, ';' :: chars)) (indent : Int) (chars : List Char) :
    readFields (fuel + 1) ('\n' :: (field.render indent).toList ++ chars) =
      (readFields fuel chars).map fun (fields, after) =>
        (⟨field.name, type, field.isRequired⟩ :: fields, after) := by
  obtain ⟨first, key, keyText, stops, notEnd⟩ := exists_cons_propertyKey field.name
  obtain ⟨mark, marked, markText, isMark⟩ : ∃ mark marked,
      (if field.isRequired then "" else "?").toList ++ ": ".toList ++
        (field.typeText.toList ++ ';' :: chars) = mark :: marked ∧ (mark = '?' ∨ mark = ':') := by
    cases field.isRequired
    · exact ⟨_, _, rfl, .inl rfl⟩
    · exact ⟨_, _, rfl, .inr rfl⟩
  have line : '\n' :: (field.render indent).toList ++ chars =
      '\n' :: (indentation indent).toList ++ first :: (key ++ mark :: marked) := by
    rw [← markText, ← List.cons_append, ← keyText]
    simp [RecordField.render]
  rw [line, readFields, dropWhile_isLayout indent stops]
  split
  · rename_i ended
    exact False.elim (notEnd (List.cons.inj ended).1)
  · rw [← List.cons_append, ← keyText, readKey_propertyKey field.name isMark, ← markText]
    simp only [Option.bind_eq_bind, Option.bind_some, readMarker_of, typeRead]
    have semicolon : (';' :: chars).dropPrefix? [';'] = some chars :=
      Text.dropPrefix?_append_self [';'] chars
    rw [semicolon, Option.bind_some]
    cases readFields fuel chars <;> rfl

/-- The lines of the properties of a record, each behind a line feed. -/
def fieldLines (indent : Int) (fields : List RecordField) : List Char :=
  fields.flatMap fun field => '\n' :: (field.render indent).toList

theorem toList_renderRecord (indent : Int) (fields : List RecordField) :
    (renderRecord indent fields).toList =
      '\x7b' :: (fieldLines (indent + 1) fields ++
        ('\n' :: (indentation indent).toList ++ ['\x7d'])) := by
  rw [renderRecord, List.cons_append, Text.toList_unlines_cons, List.flatMap_append, List.flatMap_map]
  simp [fieldLines]

theorem length_typeText_le (field : RecordField) (indent : Int) (fields : List RecordField) :
    field.typeText.toList.length + (fieldLines indent fields).length + 2 ≤
      (fieldLines indent (field :: fields)).length := by
  have semicolon : ";".toList.length = 1 := rfl
  simp only [fieldLines, List.flatMap_cons, RecordField.render, List.length_append, List.length_cons,
    String.toList_append]
  omega

def readProperties (required : List String) (properties : List (String × TypeExpr)) : List ReadField :=
  properties.map fun (name, type) => ⟨name, type.canonical, required.contains name⟩

theorem canonicalIn_eq_map (properties : List (String × TypeExpr)) :
    canonicalIn properties = properties.map fun (name, type) => (name, type.canonical) := by
  induction properties with
  | nil => rfl
  | cons property rest ih => rw [canonicalIn, List.map_cons, ih]

theorem ofFields_readProperties (required : List String) (properties : List (String × TypeExpr)) :
    ofFields (readProperties required properties) = (TypeExpr.record properties required).canonical := by
  rw [canonical, canonicalIn_eq_map, ofFields, readProperties, List.map_map, List.filter_map,
    List.map_map, List.filter_map]
  rfl

theorem ofWord_of_not_mem (fresh : name ∉ typeWords) : ofWord name = .ref name := by
  unfold ofWord
  split <;> simp_all [typeWords]

theorem readType_ref {name : String} (legible : (TypeExpr.ref name).Legible) (closes : Closes rest)
    (fuel : Nat) (indent : Int) :
    readType (fuel + 1) (((TypeExpr.ref name).render indent).toList ++ rest) =
      some (readArrays (.ref name) rest) := by
  rw [render]
  rcases legible with rfl | ⟨identifier, fresh⟩
  · exact readType_identifier "unknown" (by decide) closes fuel
  · have nonempty : name.isEmpty = false := by
      apply Bool.eq_false_iff.mpr
      intro empty
      rw [String.isEmpty_iff.mp empty] at identifier
      cases identifier
    rw [nonempty, if_neg Bool.false_ne_true, readType_identifier name identifier closes,
      ofWord_of_not_mem fresh]

theorem readType_openRecord (fuel : Nat) (indent : Int) (rest : List Char) :
    readType (fuel + 1) ((TypeExpr.openRecord.render indent).toList ++ rest) =
      some (readArrays .openRecord rest) := by
  have whole : "Record<string, unknown>".toList ++ rest =
      'R' :: ("ecord<string, unknown>".toList ++ rest) := by simp
  have word := readWord_openRecord rest
  rw [whole] at word
  rw [render, whole, readType_word (by decide), word]

theorem readType_enumeration {values : List String} (nonempty : values ≠ [])
    (enough : ((TypeExpr.enumeration values).render indent).toList.length < fuel)
    (closes : Closes rest) :
    readType (fuel + 1) (((TypeExpr.enumeration values).render indent).toList ++ rest) =
      some (readArrays (.enumeration values) rest) := by
  obtain ⟨c, tail, rfl, mark⟩ := closes
  have stops : c ≠ ' ' := by
    rcases mark with rfl | rfl <;> decide
  rw [render] at enough ⊢
  have members := readMembers_renderUnion nonempty enough stops tail
  obtain ⟨chars, bar⟩ := exists_bar_renderUnion nonempty
  rw [bar, List.cons_append] at members ⊢
  rw [readType, members]
  rfl

theorem readType_parenthesised {values : List String} (nonempty : values ≠ [])
    (enough : ((TypeExpr.array (.enumeration values)).render indent).toList.length < fuel)
    (rest : List Char) :
    readType (fuel + 1) (((TypeExpr.array (.enumeration values)).render indent).toList ++ rest) =
      some (readArrays (.array (.enumeration values)) rest) := by
  rw [render, renderArray, render] at enough ⊢
  have shorter : (renderUnion (values.map Literal.string)).toList.length < fuel := by
    simp only [String.toList_append, List.length_append] at enough
    omega
  have whole : ("(" ++ renderUnion (values.map Literal.string) ++ ")[]").toList ++ rest =
      '(' :: ((renderUnion (values.map Literal.string)).toList ++ ')' :: '[' :: ']' :: rest) := by
    simp
  have closing : (')' :: '[' :: ']' :: rest).dropPrefix? [')'] = some ('[' :: ']' :: rest) :=
    Text.dropPrefix?_append_self [')'] _
  rw [whole, readType, readMembers_renderUnion nonempty shorter (by decide)]
  simp only [Option.bind_eq_bind, Option.bind_some, closing]
  rfl

theorem readType_fields (fieldsRead : readFields fuel chars = some (fields, after)) :
    readType (fuel + 1) ('\x7b' :: chars) = some (readArrays (ofFields fields) after) := by
  rw [readType, fieldsRead]
  rfl

theorem readFields_nil (fuel : Nat) (rest : List Char) :
    readFields (fuel + 1) ('\x7d' :: rest) = some ([], rest) := rfl

theorem toList_render_array {item : TypeExpr} (plain : ∀ values, item ≠ .enumeration values)
    (indent : Int) (rest : List Char) :
    ((TypeExpr.array item).render indent).toList ++ rest =
      (item.render indent).toList ++ '[' :: ']' :: rest := by
  rw [render, renderArray.eq_def]
  split
  · rename_i values
    exact False.elim (plain values rfl)
  · simp

mutual

/-- A legible type expression is read from its text, with the brackets that follow the text. -/
theorem readType_render (type : TypeExpr) (legible : type.Legible) (fuel : Nat) (indent : Int)
    (rest : List Char) (enough : (type.render indent).toList.length < fuel) (closes : Closes rest) :
    readType (fuel + 1) ((type.render indent).toList ++ rest) =
      some (readArrays type.canonical rest) := by
  cases type with
  | ref name => exact readType_ref legible closes fuel indent
  | openRecord => exact readType_openRecord fuel indent rest
  | string => rw [render, readType_identifier "string" (by decide) closes, ofWord, canonical]
  | number => rw [render, readType_identifier "number" (by decide) closes, ofWord, canonical]
  | boolean => rw [render, readType_identifier "boolean" (by decide) closes, ofWord, canonical]
  | unknown declared =>
    rw [render, unknownText, readType_identifier "unknown" (by decide) closes, ofWord, canonical]
  | enumeration values => exact readType_enumeration legible enough closes
  | array item =>
    by_cases union : ∃ values, item = .enumeration values
    · obtain ⟨values, rfl⟩ := union
      exact readType_parenthesised legible enough rest
    · have plain : ∀ values, item ≠ .enumeration values := fun values same => union ⟨values, same⟩
      have shorter : (item.render indent).toList.length < fuel := by
        have whole := congrArg List.length (toList_render_array plain indent [])
        simp only [List.length_append, List.length_cons] at whole
        omega
      rw [toList_render_array plain, readType_render item legible fuel indent _ shorter
        (closes_brackets rest)]
      rfl
  | record properties required =>
    rw [← ofFields_readProperties]
    cases properties with
    | nil =>
      obtain ⟨fuel, rfl⟩ := Nat.exists_eq_succ_of_ne_zero (Nat.ne_zero_of_lt enough)
      have braces : "\x7b\x7d".toList ++ rest = '\x7b' :: '\x7d' :: rest := by simp
      rw [render, braces]
      exact readType_fields (readFields_nil fuel rest)
    | cons property properties =>
      rw [render, toList_renderRecord] at enough ⊢
      have shorter : (fieldLines (indent + 1)
          (fieldsOf (indent + 1) required (property :: properties))).length < fuel := by
        simp only [List.length_cons, List.length_append] at enough
        omega
      have fieldsRead := readFields_fieldsOf (property :: properties) legible fuel indent required
        rest shorter
      rw [List.cons_append, List.append_assoc, List.append_assoc]
      exact readType_fields fieldsRead

/-- The lines of legible properties are read up to the end of their record. -/
theorem readFields_fieldsOf (properties : List (String × TypeExpr)) (legible : LegibleIn properties)
    (fuel : Nat) (indent : Int) (required : List String) (rest : List Char)
    (enough : (fieldLines (indent + 1) (fieldsOf (indent + 1) required properties)).length < fuel) :
    readFields fuel (fieldLines (indent + 1) (fieldsOf (indent + 1) required properties) ++
        ('\n' :: (indentation indent).toList ++ '\x7d' :: rest)) =
      some (readProperties required properties, rest) := by
  obtain ⟨fuel, rfl⟩ := Nat.exists_eq_succ_of_ne_zero (Nat.ne_zero_of_lt enough)
  cases properties with
  | nil => exact readFields_end fuel indent rest
  | cons property properties =>
    obtain ⟨name, type⟩ := property
    have shorter : (type.render (indent + 1)).toList.length +
        (fieldLines (indent + 1) (fieldsOf (indent + 1) required properties)).length + 2 ≤
        (fieldLines (indent + 1) (fieldsOf (indent + 1) required ((name, type) :: properties))).length :=
      length_typeText_le ⟨name, type.render (indent + 1), required.contains name⟩ ..
    obtain ⟨fuel, rfl⟩ : ∃ less, fuel = less + 1 := ⟨fuel - 1, by omega⟩
    have typeRead (chars : List Char) :
        readType (fuel + 1) ((type.render (indent + 1)).toList ++ ';' :: chars) =
          some (type.canonical, ';' :: chars) := by
      rw [readType_render type legible.1 fuel _ _ (by omega) (closes_semicolon chars)]
      rfl
    rw [fieldsOf, fieldLines, List.flatMap_cons, List.append_assoc, readFields_line typeRead,
      ← fieldLines, readFields_fieldsOf properties legible.2 _ _ _ _ (by omega)]
    rfl

end

end TypedClient.TypeExpr
