import TypedClient.Proofs.Method.Request
import TypedClient.Proofs.TypeExpr.Literals
import TypedClient.Proofs.TypeExpr.Reader

namespace TypedClient

open Script

namespace UrlPiece

theorem toList_join_closed (held : List Char) :
    ((closed held).flatMap fun piece => piece.text.toList) = '\x7b' :: (held.reverse ++ ['\x7d']) := by
  unfold closed
  split
  · rfl
  · simp [text]

theorem toList_join_unclosed (held : List Char) :
    ((unclosed held).flatMap fun piece => piece.text.toList) = '\x7b' :: held.reverse := by
  rw [unclosed, List.flatMap_map]
  simp [text]

/-- The characters that an open brace holds back. -/
def heldBack (held : Option (List Char)) : List Char :=
  (held.map fun inside => '\x7b' :: inside.reverse).getD []

/-- The pieces of a raw path have its characters. -/
theorem toList_join_scan (held : Option (List Char)) (chars : List Char) :
    ((scan held chars).flatMap fun piece => piece.text.toList) = heldBack held ++ chars := by
  fun_induction scan held chars with
  | case1 => rfl
  | case2 held => simp [toList_join_unclosed, heldBack]
  | case3 rest ih => simpa [heldBack] using ih
  | case4 c rest _ ih => simpa [heldBack, text] using ih
  | case5 held rest ih => simp [toList_join_unclosed, ih, heldBack]
  | case6 held rest _ ih => simp [toList_join_closed, ih, heldBack]
  | case7 held c rest _ _ ih => simp [ih, heldBack]

theorem mem_ofPath (present : piece ∈ ofPath path) (member : c ∈ piece.text.toList) : c ∈ path.toList := by
  have whole := toList_join_scan none path.toList
  have inside : c ∈ (ofPath path).flatMap fun piece => piece.text.toList :=
    List.mem_flatMap.mpr ⟨piece, present, member⟩
  rwa [ofPath, whole] at inside

end UrlPiece

namespace Operation

/-- The keys of the inputs with their types, the body first. -/
def keyedTypes (operation : Operation) : List (String × TypeExpr × Bool) :=
  (operation.body.map fun content => (content.argumentName, content.type, content.isRequired)).toList ++
    operation.keyedParameters.map fun (parameter, key) => (key, parameter.type, parameter.isRequired)

/-- The field of the input record for a key and a type. -/
def inputField (input : String × TypeExpr × Bool) : RecordField :=
  ⟨input.1, input.2.1.render 2, input.2.2⟩

def inputLiterals (operation : Operation) : List String :=
  operation.keyedTypes.flatMap fun input => Literal.quotedKey input.1 ++ input.2.1.literals

def requestLiterals (operation : Operation) : List String :=
  Text.upper operation.httpMethod ::
    ((operation.keyedQuery.flatMap fun (name, key) => Literal.quotedKey name ++ [key]) ++
      operation.bodyKey.toList)

def literals (operation : Operation) : List String :=
  operation.inputLiterals ++ (operation.pathLocals.flatMap fun bound => Literal.quotedKey bound.key) ++
    (operation.response.toList.flatMap fun content => content.type.literals) ++ operation.requestLiterals

def types (operation : Operation) : List TypeExpr :=
  operation.keyedTypes.map (·.2.1) ++ operation.response.toList.map (·.type)

/-- The texts that the method repeats outside of literals. -/
def verbatimTexts (operation : Operation) : List String :=
  operation.methodName :: operation.rawPath :: operation.types.flatMap (·.references)

theorem inputFields_eq_map (operation : Operation) : operation.inputFields =
    operation.keyedTypes.map inputField := by
  unfold inputFields keyedTypes
  cases operation.body <;> simp [inputField]

theorem mem_literals {operation : Operation} (input : String × TypeExpr × Bool)
    (member : input ∈ operation.keyedTypes)
    (inside : text ∈ Literal.quotedKey input.1 ++ input.2.1.literals) : text ∈ operation.literals := by
  have among : text ∈ operation.inputLiterals := List.mem_flatMap.mpr ⟨input, member, inside⟩
  simp [literals, among]

section

variable {operation : Operation} {outside : Char → Prop} (apart : ∀ c, c ≠ '\x27' → outside c)
variable (raw : ∀ text ∈ operation.literals, text.toList.all standsRaw = true)
variable (verbatim : ∀ text ∈ operation.verbatimTexts, ∀ c ∈ text.toList, outside c)

include apart

include raw verbatim in
theorem holds_type (typed : type ∈ operation.types)
    (inside : ∀ text ∈ type.literals, text ∈ operation.literals) (indent : Int) :
    HoldsLiterals outside (type.render indent).toList type.literals := by
  refine TypeExpr.holds_render apart type (fun text member => raw text (inside text member)) ?_ indent
  intro name member
  have among := List.mem_flatMap.mpr ⟨type, typed, member⟩
  exact verbatim name (List.mem_cons_of_mem _ (List.mem_cons_of_mem _ among))

include raw verbatim in
theorem holds_inputRecord : HoldsLiterals outside (renderRecord 1 operation.inputFields).toList
    operation.inputLiterals := by
  have inTypes : ∀ input ∈ operation.keyedTypes,
      HoldsLiterals outside (inputField input).typeText.toList input.2.1.literals := by
    intro input member
    refine holds_type apart raw verbatim (List.mem_append_left _ (List.mem_map_of_mem member)) ?_ 2
    exact fun text inType => mem_literals input member (List.mem_append_right _ inType)
  have rawKeys : ∀ input ∈ operation.keyedTypes, ∀ text ∈ Literal.quotedKey (inputField input).name,
      text.toList.all standsRaw = true := by
    intro input member text inKey
    exact raw text (mem_literals input member (List.mem_append_left _ inKey))
  rw [inputFields_eq_map]
  exact holds_renderRecord apart 1 rawKeys inTypes

include raw verbatim in
theorem holds_parameters :
    LinesHold outside (operation.method.parameters.map (·.render)) operation.inputLiterals := by
  have record := holds_inputRecord apart raw verbatim
  unfold method inputType
  split
  · rename_i empty
    rw [inputFields_eq_map, List.map_eq_nil_iff] at empty
    rw [inputLiterals, empty]
    exact .nil
  · have named := holds_word apart "props: " (by decide)
    exact .singleton (by simpa [ParameterDecl.render, inputArgument] using named.join record)

include raw in
theorem holds_binding (bound : PathLocal) (member : bound ∈ operation.pathLocals) :
    HoldsLiterals outside bound.binding.toList (Literal.quotedKey bound.key) := by
  have isVariable := (PathLocal.mem_bindAll member).2
  have rawKey : ∀ text ∈ Literal.quotedKey bound.key, text.toList.all standsRaw = true := by
    intro text inKey
    have among : text ∈ operation.pathLocals.flatMap fun bound => Literal.quotedKey bound.key :=
      List.mem_flatMap.mpr ⟨bound, member, inKey⟩
    exact raw text (by simp [literals, among])
  have named : HoldsLiterals outside bound.localName.toList [] :=
    .done fun c inName => outside_of_isIdentifier apart isVariable.1 inName
  unfold PathLocal.binding
  split
  · rename_i same
    have bare : Literal.isBareKey bound.key = true := by
      rw [same, Literal.isBareKey, isVariable.1]
      rfl
    rw [Literal.quotedKey, if_pos bare, same]
    exact named
  · have key := holds_propertyKey apart rawKey
    simpa using (key.join (holds_word apart ": " (by decide))).join named

theorem holds_inputAccess (rawKey : key.toList.all standsRaw = true) :
    HoldsLiterals outside (inputAccess key).toList [key] := by
  have opening := holds_word apart "props[" (by decide)
  have closing := holds_word apart "]" (by decide)
  have literal : HoldsLiterals outside (Literal.string key).toList [key] := .ofString rawKey
  simpa [inputAccess, inputArgument] using (opening.join literal).join closing

theorem holds_absentText : HoldsLiterals outside absentText.toList [] :=
  holds_word apart "undefined" (by decide)

include raw in
theorem holds_bodyText : HoldsLiterals outside operation.bodyText.toList operation.bodyKey.toList := by
  unfold bodyText
  cases keyed : operation.bodyKey with
  | none => exact holds_absentText apart
  | some key =>
    refine holds_inputAccess apart (raw key ?_)
    simp [literals, requestLiterals, keyed]

include raw in
theorem holds_queryText : HoldsLiterals outside operation.queryText.toList
    (operation.keyedQuery.flatMap fun (name, key) => Literal.quotedKey name ++ [key]) := by
  unfold queryText
  rw [queryMembers_eq]
  cases found : operation.keyedQuery with
  | nil => exact holds_absentText apart
  | cons first rest =>
    refine holds_objectLiteral apart fun entry member => ?_
    have inRequest {text : String} (inside : text ∈ Literal.quotedKey entry.1 ++ [entry.2]) :
        text ∈ operation.literals := by
      have among : text ∈ operation.keyedQuery.flatMap fun (name, key) => Literal.quotedKey name ++ [key] :=
        List.mem_flatMap.mpr ⟨entry, found ▸ member, inside⟩
      simp [literals, requestLiterals, among]
    have key := holds_propertyKey apart fun text inKey => raw text (inRequest (List.mem_append_left _ inKey))
    have access := holds_inputAccess apart (raw entry.2 (inRequest (by simp)))
    exact holds_objectMember apart key access

include verbatim in
theorem outside_of_mem_template (present : piece ∈ UrlPiece.ofPath operation.rawPath)
    (member : c ∈ (piece.template operation.pathVariables).toList) : outside c := by
  have inPath {c : Char} (inText : c ∈ piece.text.toList) : outside c :=
    verbatim operation.rawPath (by simp [verbatimTexts]) c (UrlPiece.mem_ofPath present inText)
  cases piece with
  | char => exact inPath member
  | placeholder name =>
    have marks : ∀ mark ∈ ['$', '\x7b', '\x7d'], outside mark := fun mark inMarks =>
      apart mark fun same => absurd (same ▸ inMarks) (by decide)
    rw [UrlPiece.toList_template_placeholder, List.mem_cons, List.mem_cons, List.mem_append,
      List.mem_singleton] at member
    rcases member with rfl | rfl | inVariable | rfl
    · exact marks _ (by simp)
    · exact marks _ (by simp)
    · rw [UrlPiece.variableOf, lookup_pathVariables] at inVariable
      cases found : operation.pathLocals.find? (·.parameterName = name) with
      | none =>
        rw [found] at inVariable
        have inName : c ∈ name.toList := inVariable
        exact inPath (by simp [UrlPiece.text, inName])
      | some bound =>
        rw [found] at inVariable
        have isVariable := (PathLocal.mem_bindAll (List.mem_of_find?_eq_some found)).2
        exact outside_of_isIdentifier apart isVariable.1 inVariable
    · exact marks _ (by simp)

include verbatim in
theorem holds_addressText : HoldsLiterals outside operation.addressText.toList [] := by
  have opening := holds_word apart "\x60$\x7bbaseUrl\x7d" (by decide)
  have closing := holds_word apart "\x60" (by decide)
  have path : HoldsLiterals outside (urlTemplate operation.pathVariables operation.rawPath).toList [] := by
    refine .done fun c member => ?_
    rw [urlTemplate, String.toList_join, List.flatMap_map] at member
    obtain ⟨piece, present, inside⟩ := List.mem_flatMap.mp member
    exact outside_of_mem_template apart verbatim present inside
  have whole := (opening.join path).join closing
  rw [addressText, Literal.template]
  simpa using whole

include raw verbatim in
theorem holds_requestText :
    HoldsLiterals outside operation.requestText.toList operation.requestLiterals := by
  let members : List ((String × String) × List String) := [
    (("url", operation.addressText), []),
    (("method", Literal.string (Text.upper operation.httpMethod)), [Text.upper operation.httpMethod]),
    (("queryParams", operation.queryText),
      operation.keyedQuery.flatMap fun (name, key) => Literal.quotedKey name ++ [key]),
    (("bodyArgs", operation.bodyText), operation.bodyKey.toList)]
  have rawMethod : (Text.upper operation.httpMethod).toList.all standsRaw = true :=
    raw _ (by simp [literals, requestLiterals])
  have each : ∀ member ∈ members,
      HoldsLiterals outside (Expression.objectMember member.1.1 member.1.2).toList member.2 := by
    intro member present
    simp only [members, List.mem_cons, List.not_mem_nil, or_false] at present
    rcases present with rfl | rfl | rfl | rfl
    · exact holds_objectMember apart (holds_word apart "url" (by decide))
        (holds_addressText apart verbatim)
    · exact holds_objectMember apart (holds_word apart "method" (by decide)) (.ofString rawMethod)
    · exact holds_objectMember apart (holds_word apart "queryParams" (by decide)) (holds_queryText apart raw)
    · exact holds_objectMember apart (holds_word apart "bodyArgs" (by decide)) (holds_bodyText apart raw)
  have whole := holds_objectLiteral apart each
  simpa [members, requestText, requestLiterals] using whole

include raw verbatim in
theorem holds_responseText : HoldsLiterals outside operation.responseText.toList
    (operation.response.toList.flatMap fun content => content.type.literals) := by
  unfold responseText
  cases returned : operation.response with
  | none => exact holds_word apart "void" (by decide)
  | some content =>
    have inside : ∀ text ∈ content.type.literals, text ∈ operation.literals := by
      intro text inType
      simp [literals, returned, inType]
    have typed : content.type ∈ operation.types := by
      simp [types, returned]
    simpa using holds_type apart raw verbatim typed inside 0

include raw in
theorem holds_locals :
    LinesHold outside
      (match operation.pathLocals with
        | [] => []
        | bound => [Expression.destructure inputArgument (bound.map (·.binding))])
      (operation.pathLocals.flatMap fun bound => Literal.quotedKey bound.key) := by
  have bindings := LinesHold.flatMap (holds_binding apart raw)
  cases found : operation.pathLocals with
  | nil => exact .nil
  | cons first rest =>
    rw [found] at bindings
    exact .singleton (holds_destructure apart bindings (holds_word apart "props" (by decide)))

include raw verbatim in
theorem holds_statements : LinesHold outside operation.statements
    ((operation.pathLocals.flatMap fun bound => Literal.quotedKey bound.key) ++
      (operation.response.toList.flatMap fun content => content.type.literals) ++
        operation.requestLiterals) := by
  have configuration : HoldsLiterals outside (Expression.destructure ("this." ++ configurationMember)
      ["baseUrl", "adapter"]).toList [] := holds_word apart _ (by decide)
  have answer := holds_call apart (holds_word apart "adapter" (by decide))
    (holds_responseText apart raw verbatim) (.singleton (holds_requestText apart raw verbatim))
  have returned := ((holds_word apart "return " (by decide)).join answer).join
    (holds_word apart ";" (by decide))
  have blank := LinesHold.cons (holds_word apart "" (by decide)) (.singleton returned)
  have whole : LinesHold outside operation.statements _ :=
    .cons configuration ((holds_locals apart raw).append blank)
  simpa using whole

include raw verbatim in
/-- The text of a method holds the literals of its operation. -/
theorem holds_method : HoldsLiterals outside operation.method.render.toList operation.literals := by
  have named : HoldsLiterals outside operation.methodName.toList [] :=
    .done (verbatim operation.methodName List.mem_cons_self)
  have start := ((holds_indentation apart 1).join named).join (holds_word apart "(" (by decide))
  have opening := (start.join (holds_commaSeparated apart (holds_parameters apart raw verbatim))).join
    (holds_word apart ") \x7b" (by decide))
  have statements := (holds_statements apart raw verbatim).map fun line values =>
    holds_indentLines apart 2
  have closing := (holds_indentation apart 1).join (holds_word apart "\x7d" (by decide))
  have whole := holds_unlines apart (.cons opening (statements.append (.singleton closing)))
  simpa [MethodDecl.render, method, literals] using whole

end

end Operation

/-- A string literal ends where it was ended, and without its escapes it is its text; as TypeScript reads
it, it is a literal exactly when no line ends in the text. So where no line ends in the texts, each of the
literals in the text of a type expression, of a record type and of a method has the text that was declared
for it, in order, and outside of the literals there is nothing but what is repeated as it is and what is
no apostrophe. -/
theorem Literal.string_denotes (value : String) (outside : Char → Prop)
    (apart : ∀ c, c ≠ '\x27' → outside c) :
    (∀ rest, readLiteral TypeExpr.anyChar ((Literal.string value).toList ++ rest) = some (value, rest)) ∧
    (∀ rest, readLiteral standsRaw ((Literal.string value).toList ++ rest) =
      if value.toList.all standsRaw then some (value, rest) else none) ∧
    (∀ (type : TypeExpr) (indent : Int), (∀ text ∈ type.literals, text.toList.all standsRaw = true) →
      (∀ name ∈ type.references, ∀ c ∈ name.toList, outside c) →
      HoldsLiterals outside (type.render indent).toList type.literals) ∧
    (∀ (fields : List RecordField) (inType : RecordField → List String) (indent : Int),
      (∀ field ∈ fields, ∀ text ∈ Literal.quotedKey field.name, text.toList.all standsRaw = true) →
      (∀ field ∈ fields, HoldsLiterals outside field.typeText.toList (inType field)) →
      HoldsLiterals outside (renderRecord indent fields).toList
        (fields.flatMap fun field => Literal.quotedKey field.name ++ inType field)) ∧
    (∀ operation : Operation, (∀ text ∈ operation.literals, text.toList.all standsRaw = true) →
      (∀ text ∈ operation.verbatimTexts, ∀ c ∈ text.toList, outside c) →
      HoldsLiterals outside operation.method.render.toList operation.literals) ∧
    (¬outside '\x27' → ∀ chars values others, HoldsLiterals outside chars values →
      HoldsLiterals outside chars others → values = others) := by
  refine ⟨?escapes, ?script, ?types, ?records, ?methods, ?unique⟩
  case escapes =>
    intro rest
    have any : value.toList.all TypeExpr.anyChar = true := List.all_eq_true.mpr fun _ _ => rfl
    rw [readLiteral_string rfl rfl, if_pos any]
  case script => exact readLiteral_string (by decide) (by decide) value
  case types => exact fun type indent raw named => TypeExpr.holds_render apart type raw named indent
  case records =>
    intro fields inType indent rawKeys inTypes
    have whole : HoldsLiterals outside (renderRecord indent (fields.map id)).toList _ :=
      holds_renderRecord apart indent rawKeys inTypes
    rwa [List.map_id] at whole
  case methods => exact fun operation raw verbatim => Operation.holds_method apart raw verbatim
  case unique => exact fun quote chars values others holds also => holds.unique quote also

/-- An operation whose names and values need quotes and escapes. -/
def quoting : Operation where
  rawPath := "/\x7buser-id\x7d"
  httpMethod := "get"
  serviceName := "Users"
  methodName := "get"
  parameters := [⟨"user-id", true, .path, .string⟩,
    ⟨"sort\x27by", false, .query, .enumeration ["it\x27s", "a\\"]⟩]
  body := none
  response := some ⟨"data", .array (.ref "User"), true, some "User"⟩
  skipped := []

theorem Literal.string_denotes_quoting :
    quoting.literals = ["user-id", "sort\x27by", "it\x27s", "a\\", "user-id", "GET", "sort\x27by", "sort\x27by"] ∧
      (∀ text ∈ quoting.literals, text.toList.all standsRaw = true) ∧
      (∀ text ∈ quoting.verbatimTexts, ∀ c ∈ text.toList, c ≠ '\x27') ∧
      HoldsLiterals (· ≠ '\x27') quoting.method.render.toList quoting.literals ∧
      (∀ others, HoldsLiterals (· ≠ '\x27') quoting.method.render.toList others → quoting.literals = others) ∧
      HoldsLiterals (· ≠ '\x27') ((TypeExpr.enumeration ["it\x27s", "a\\"]).render 0).toList ["it\x27s", "a\\"] ∧
      HoldsLiterals (· ≠ '\x27') (renderRecord 0 [⟨"user-id", "string", true⟩]).toList ["user-id"] ∧
      readLiteral standsRaw ((Literal.string "it\x27s").toList ++ [';']) = some ("it\x27s", [';']) := by
  have texts : quoting.literals =
      ["user-id", "sort\x27by", "it\x27s", "a\\", "user-id", "GET", "sort\x27by", "sort\x27by"] := by
    decide +kernel
  have raw : ∀ text ∈ quoting.literals, text.toList.all standsRaw = true := by
    rw [texts]
    decide
  have noQuote : quoting.verbatimTexts.all (fun text => text.toList.all (· != '\x27')) = true := by
    decide +kernel
  have verbatim : ∀ text ∈ quoting.verbatimTexts, ∀ c ∈ text.toList, c ≠ '\x27' := fun text member c inside =>
    bne_iff_ne.mp (List.all_eq_true.mp (List.all_eq_true.mp noQuote text member) c inside)
  obtain ⟨_, script, types, records, methods, unique⟩ :=
    Literal.string_denotes "it\x27s" (· ≠ '\x27') fun _ apart => apart
  have method := methods quoting raw verbatim
  refine ⟨texts, raw, verbatim, method, fun others => unique (by simp) _ _ others method, ?type, ?record,
    script [';']⟩
  case type =>
    exact types (.enumeration ["it\x27s", "a\\"]) 0 (by decide) fun name member => nomatch member
  case record =>
    refine records [⟨"user-id", "string", true⟩] (fun _ => []) 0 (by decide) fun field member => ?_
    rw [List.mem_singleton.mp member]
    exact holds_word (fun _ apart => apart) "string" (by decide)

/-- A value of an enumeration in which a line ends is no literal. -/
theorem Literal.string_lineEnd :
    (TypeExpr.enumeration ["a\nb"]).render 0 = "| " ++ Literal.string "a\nb" ∧
      '\n' ∈ (Literal.string "a\nb").toList ∧
      readLiteral standsRaw (Literal.string "a\nb").toList = none := by
  decide

end TypedClient
