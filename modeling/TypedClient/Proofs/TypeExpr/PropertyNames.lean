import Mathlib.Data.List.Nodup
import TypedClient.Proofs.Source.Term
import TypedClient.Proofs.TypeExpr.RoundTrip

namespace TypedClient.TypeExpr

open Script (standsRaw)

def readKeyToken (chars : List Char) : Option (String × List Char) :=
  (Script.readKey chars).map fun (name, after) => (name, after.dropWhile isLayout)

/-- Reads the names of properties up to the closing brace, given the texts of their types. -/
def readNames : List String → List Char → Option (List String)
  | [], chars => if chars.dropWhile isLayout = ['\x7d'] then some [] else none
  | typeText :: typeTexts, chars => do
    let (name, marked) ← readKeyToken (chars.dropWhile isLayout)
    let (_, typed) ← readMarker marked
    let names ← readNames typeTexts (← typed.dropPrefix? (typeText ++ ";").toList)
    return name :: names

def readDeclared (typeTexts : List String) (text : String) : Option (List String) :=
  match text.toList with
  | '\x7b' :: rest => readNames typeTexts rest
  | _ => none

/-- The name that is declared where a key stands for a name, if the key is read at all. -/
def declaredName? (name : String) : Option String :=
  if Identifier.isIdentifier name.toList then some name
  else if Literal.isBareKey name then some (String.ofList name.toList.dropLast)
  else if name.toList.all standsRaw then some name else none

/-- The name is an identifier with a line feed behind it. -/
def EndsLine (name : String) : Prop :=
  ∃ word : String, name = word ++ "\n" ∧ Identifier.isIdentifier word.toList = true

theorem isBareKey_iff :
    Literal.isBareKey name = true ↔ Identifier.isIdentifier name.toList = true ∨ EndsLine name := by
  constructor
  · intro bare
    refine (Literal.isBareKey_cases bare).imp_right fun ⟨word, spelled, identifier⟩ => ?_
    refine ⟨String.ofList word, String.toList_inj.mp ?_, by rwa [String.toList_ofList]⟩
    rw [String.toList_append, String.toList_ofList, spelled]
    rfl
  · intro cases
    rcases cases with identifier | ⟨word, rfl, identifier⟩
    · simp [Literal.isBareKey, identifier]
    · simp [Literal.isBareKey, identifier]

theorem propertyKey_eq_self_iff : Literal.propertyKey name = name ↔
    Identifier.isIdentifier name.toList = true ∨ EndsLine name := by
  rw [← isBareKey_iff, Literal.propertyKey]
  split
  · simp_all
  · rename_i quoted
    exact iff_of_false (Literal.string_ne_self name) quoted

theorem declaredName?_endsLine {word : String} (identifier : Identifier.isIdentifier word.toList = true) :
    declaredName? (word ++ "\n") = some word := by
  have bare : Literal.isBareKey (word ++ "\n") = true := isBareKey_iff.mpr (.inr ⟨word, rfl, identifier⟩)
  have whole : ¬Identifier.isIdentifier (word ++ "\n").toList = true := by
    intro also
    have lineFeed := Identifier.isPart_of_mem also (c := '\n') (by simp)
    exact absurd lineFeed (by decide)
  rw [declaredName?, if_neg whole, if_pos bare]
  simp

theorem declaredName?_quoted (quoted : ¬Literal.isBareKey name = true) :
    declaredName? name = if name.toList.all standsRaw then some name else none := by
  have noIdentifier : ¬Identifier.isIdentifier name.toList = true :=
    fun identifier => quoted (isBareKey_iff.mpr (.inl identifier))
  rw [declaredName?, if_neg noIdentifier, if_neg quoted]

/-- A key is read as the name that it declares, with the white space behind it. -/
theorem readKeyToken_propertyKey (name : String) (mark : c = '?' ∨ c = ':') (rest : List Char) :
    readKeyToken ((Literal.propertyKey name).toList ++ c :: rest) =
      (declaredName? name).map fun read => (read, c :: rest) := by
  have stops : Identifier.isPart c = false ∧ isLayout c = false := by
    rcases mark with rfl | rfl <;> decide
  unfold readKeyToken Literal.propertyKey
  split
  · rename_i bare
    rcases isBareKey_iff.mp bare with identifier | ⟨word, rfl, identifier⟩
    · rw [Script.readKey_word identifier stops.1, declaredName?, if_pos identifier]
      simp [stops.2]
    · have lineFeed : "\n".toList ++ c :: rest = '\n' :: c :: rest := rfl
      rw [String.toList_append, List.append_assoc, lineFeed,
        Script.readKey_word identifier (by decide), declaredName?_endsLine identifier]
      have separated : ('\n' :: c :: rest).dropWhile isLayout = c :: rest := by
        rw [List.dropWhile_cons_of_pos (by decide), List.dropWhile_cons_of_neg (by simp [stops.2])]
      simp [separated]
  · rename_i quoted
    rw [declaredName?_quoted quoted, Literal.toList_string, List.cons_append, List.cons_append,
      List.append_assoc, List.singleton_append, Script.readKey,
      Literal.readString_flatMap_eq (by decide) (by decide)]
    split <;> simp [stops.2]

/-- The properties are read as the names that their keys declare, whatever the texts of their types. -/
theorem readNames_fieldLines (fields : List RecordField) (indent outer : Int) :
    readNames (fields.map (·.typeText))
        (fieldLines indent fields ++ ('\n' :: (indentation outer).toList ++ ['\x7d'])) =
      (fields.map (·.name)).mapM declaredName? := by
  induction fields with
  | nil =>
    have closing := dropWhile_isLayout outer (c := '\x7d') (by decide) []
    simp only [List.map_nil, readNames, fieldLines, List.flatMap_nil, List.nil_append, closing,
      ↓reduceIte]
    rfl
  | cons field fields ih =>
    obtain ⟨name, typeText, isRequired⟩ := field
    let more := fieldLines indent fields ++ ('\n' :: (indentation outer).toList ++ ['\x7d'])
    obtain ⟨first, chars, spelled, noLayout, _⟩ := exists_cons_propertyKey name
    obtain ⟨mark, behind, marked, isMark⟩ : ∃ mark behind,
        (if isRequired then "" else "?").toList ++ ": ".toList ++ ((typeText ++ ";").toList ++ more) =
          mark :: behind ∧ (mark = '?' ∨ mark = ':') := by
      cases isRequired
      · exact ⟨'?', _, rfl, .inl rfl⟩
      · exact ⟨':', _, rfl, .inr rfl⟩
    have markerRead := readMarker_of isRequired ((typeText ++ ";").toList ++ more)
    rw [marked] at markerRead
    have line : (fieldLines indent (⟨name, typeText, isRequired⟩ :: fields) ++
        ('\n' :: (indentation outer).toList ++ ['\x7d'])).dropWhile isLayout =
          (Literal.propertyKey name).toList ++ mark :: behind := by
      have behindKey : (fieldLines indent (⟨name, typeText, isRequired⟩ :: fields) ++
          ('\n' :: (indentation outer).toList ++ ['\x7d'])) =
            '\n' :: (indentation indent).toList ++ ((Literal.propertyKey name).toList ++ mark :: behind) := by
        rw [← marked]
        simp [fieldLines, RecordField.render, more]
      rw [behindKey, spelled]
      exact dropWhile_isLayout indent noLayout _
    rw [List.map_cons, List.map_cons, List.mapM_cons, readNames, line, readKeyToken_propertyKey name isMark]
    cases declaredName? name with
    | none => rfl
    | some read =>
      simp only [Option.map_some, Option.bind_eq_bind, Option.bind_some, markerRead,
        Text.dropPrefix?_append_self, more, ih]

theorem readDeclared_renderRecord (indent : Int) (fields : List RecordField) :
    readDeclared (fields.map (·.typeText)) (renderRecord indent fields) =
      (fields.map (·.name)).mapM declaredName? := by
  rw [readDeclared, toList_renderRecord]
  exact readNames_fieldLines fields (indent + 1) indent

theorem mapM_eq_some_iff {step : String → Option String} {names results : List String} :
    names.mapM step = some results ↔ names.map step = results.map some := by
  induction names generalizing results with
  | nil => cases results <;> simp
  | cons name names ih =>
    rw [List.mapM_cons, List.map_cons]
    cases results with
    | nil => cases step name <;> cases names.mapM step <;> simp
    | cons result results =>
      rw [List.map_cons, List.cons.injEq, ← ih]
      cases step name <;> cases names.mapM step <;> simp

/-- A declared name is the name itself, or what stands before its line feed. -/
theorem declaredName?_cases {read : String} (reads : declaredName? name = some read) :
    name = read ∨ name = read ++ "\n" ∧ Identifier.isIdentifier read.toList = true := by
  by_cases bare : Literal.isBareKey name = true
  · rcases isBareKey_iff.mp bare with identifier | ⟨word, rfl, identifier⟩
    · rw [declaredName?, if_pos identifier] at reads
      exact .inl (Option.some.inj reads)
    · rw [declaredName?_endsLine identifier] at reads
      obtain rfl := Option.some.inj reads
      exact .inr ⟨rfl, identifier⟩
  · rw [declaredName?_quoted bare] at reads
    split at reads
    · exact .inl (Option.some.inj reads)
    · cases reads

theorem declaredName?_of_isIdentifier (identifier : Identifier.isIdentifier name.toList = true) :
    declaredName? name = some name := by
  rw [declaredName?, if_pos identifier]

theorem ne_append_lineFeed (word : String) : word ≠ word ++ "\n" := by
  intro same
  have lengths := congrArg (·.toList.length) same
  simp at lengths

theorem not_standsRaw_endsLine (word : String) : ¬(word ++ "\n").toList.all standsRaw = true := by
  simp [standsRaw]

/-- Exactly a name without a line end is declared as it is. -/
theorem declaredName?_eq_self_iff :
    declaredName? name = some name ↔ name.toList.all standsRaw = true := by
  by_cases bare : Literal.isBareKey name = true
  · rcases isBareKey_iff.mp bare with identifier | ⟨word, rfl, identifier⟩
    · refine iff_of_true (declaredName?_of_isIdentifier identifier) (List.all_eq_true.mpr ?_)
      intro c member
      exact Script.standsRaw_of_isPart (Identifier.isPart_of_mem identifier member)
    · refine iff_of_false ?_ (not_standsRaw_endsLine word)
      rw [declaredName?_endsLine identifier]
      exact fun same => ne_append_lineFeed word (Option.some.inj same)
  · rw [declaredName?_quoted bare]
    split <;> simp_all

/-- Different names are declared as one name only where one is an identifier and the other this
identifier with a line feed behind it. -/
theorem nodup_declared_iff {names declared : List String} (distinct : names.Nodup)
    (reads : names.mapM declaredName? = some declared) :
    declared.Nodup ↔ ∀ name ∈ names, Identifier.isIdentifier name.toList = true → name ++ "\n" ∉ names := by
  have results := mapM_eq_some_iff.mp reads
  have asOptions : declared.Nodup ↔ (names.map declaredName?).Nodup := by
    rw [results, List.nodup_map_iff fun _ _ => Option.some.inj]
  rw [asOptions, List.nodup_map_iff_inj_on distinct]
  constructor
  · intro injective word inNames identifier followed
    have same : word = word ++ "\n" := by
      apply injective word inNames _ followed
      rw [declaredName?_of_isIdentifier identifier, declaredName?_endsLine identifier]
    exact ne_append_lineFeed word same
  · intro separate left inLeft right inRight same
    have declares : declaredName? left ∈ declared.map some := results ▸ List.mem_map_of_mem inLeft
    obtain ⟨read, _, leftReads⟩ := List.mem_map.mp declares
    rcases declaredName?_cases leftReads.symm with rfl | ⟨rfl, identifier⟩
    · rcases declaredName?_cases (same.symm.trans leftReads.symm) with rfl | ⟨rfl, identifier⟩
      · rfl
      · exact absurd inRight (separate left inLeft identifier)
    · rcases declaredName?_cases (same.symm.trans leftReads.symm) with rfl | ⟨rfl, _⟩
      · exact absurd inLeft (separate right inRight identifier)
      · rfl

/-- The properties of a record type declare their names, read as TypeScript reads keys, exactly when no
line ends in a name. Of fields with different names two declare one name only where a line feed follows
the name of the one in the name of the other; and a name stands without quotes exactly if it is an
identifier, but for such a line feed. -/
theorem renderRecord_declares (indent : Int) (fields : List RecordField)
    (distinct : (fields.map (·.name)).Nodup) :
    (∀ field ∈ fields,
      (Literal.propertyKey field.name = field.name ↔
        Identifier.isIdentifier field.name.toList = true ∨ EndsLine field.name) ∧
      (Literal.propertyKey field.name = field.name ∨
        Literal.propertyKey field.name = Literal.string field.name)) ∧
    readDeclared (fields.map (·.typeText)) (renderRecord indent fields) =
      (fields.map (·.name)).mapM declaredName? ∧
    (readDeclared (fields.map (·.typeText)) (renderRecord indent fields) = some (fields.map (·.name)) ↔
      ∀ field ∈ fields, field.name.toList.all standsRaw = true) ∧
    ∀ declared, readDeclared (fields.map (·.typeText)) (renderRecord indent fields) = some declared →
      (declared.Nodup ↔ ∀ field ∈ fields, Identifier.isIdentifier field.name.toList = true →
        ∀ other ∈ fields, other.name ≠ field.name ++ "\n") := by
  rw [readDeclared_renderRecord]
  refine ⟨?keys, rfl, ?names, ?nodup⟩
  case keys =>
    intro field _
    refine ⟨propertyKey_eq_self_iff, ?_⟩
    unfold Literal.propertyKey
    split
    · exact .inl rfl
    · exact .inr rfl
  case names =>
    simp only [mapM_eq_some_iff, List.map_inj_left, List.forall_mem_map, declaredName?_eq_self_iff]
  case nodup =>
    intro declared reads
    rw [nodup_declared_iff distinct reads]
    simp

theorem renderRecord_declares_quoted :
    let fields : List RecordField :=
      [⟨"id", "string", true⟩, ⟨"user-id", "number", false⟩, ⟨"it\x27s", "unknown[]", true⟩, ⟨"", "null", true⟩]
    (fields.map (·.name)).Nodup ∧
      readDeclared ["string", "number", "unknown[]", "null"] (renderRecord 0 fields) =
        some ["id", "user-id", "it\x27s", ""] ∧
      Literal.propertyKey "id" = "id" ∧ Literal.propertyKey "user-id" ≠ "user-id" := by
  intro fields
  have distinct : (fields.map (·.name)).Nodup := by decide
  obtain ⟨keys, -, names, -⟩ := renderRecord_declares 0 fields distinct
  refine ⟨distinct, names.mpr (by decide), ?_, ?_⟩
  · exact (keys ⟨"id", "string", true⟩ (by simp [fields])).1.mpr (.inl (by decide))
  · intro bare
    have dashed := (keys ⟨"user-id", "number", false⟩ (by simp [fields])).1.mp bare
    exact absurd (isBareKey_iff.mpr dashed) (by decide)

/-- Two properties with different names declare one name, because a name stands without quotes also
when it is an identifier with a line feed behind it. -/
theorem renderRecord_declares_twice :
    let fields : List RecordField := [⟨"id", "string", true⟩, ⟨"id\n", "string", true⟩]
    (fields.map (·.name)).Nodup ∧
      renderRecord 0 fields = "\x7b\n    id: string;\n    id\n: string;\n\x7d" ∧
      readDeclared ["string", "string"] (renderRecord 0 fields) = some ["id", "id"] ∧
      Identifier.isIdentifier "id\n".toList = false := by
  intro fields
  have declared : (fields.map (·.name)).mapM declaredName? = some ["id", "id"] := by decide
  exact ⟨by decide, by decide, (readDeclared_renderRecord 0 fields).trans declared, by decide⟩

end TypedClient.TypeExpr
