import TypedClient.Proofs.Method.Address
import TypedClient.Proofs.Operation.Extract

/-!
What a method sends besides the address. In the scope of the statements of the method, the query
parameters and the body of the request are the inputs under the keys of these parameters and of the body.
Only a local with the name of the undefined value can get in the way, of a part that is not there.
-/

namespace TypedClient.Operation

open Script

def keyedQuery (operation : Operation) : List (String × String) :=
  (operation.keyedParameters.filter fun (parameter, _) => parameter.place = .query).map
    fun (parameter, key) => (parameter.name, key)

theorem map_keyedQuery (operation : Operation) :
    operation.keyedQuery.map (·.1) = operation.queryParameters.map (·.name) := by
  rw [queryParameters, ← (map_keyedParameters operation).1, List.filter_map, List.map_map, keyedQuery,
    List.map_map]
  rfl

/-! ### Expressions of the request -/

def queryTerm (operation : Operation) : Term :=
  match operation.keyedQuery with
  | [] => .variable absentText
  | keyed => .object (keyed.map fun (name, key) => (name, .member inputArgument key))

def bodyTerm (operation : Operation) : Term :=
  match operation.bodyKey with
  | some key => .member inputArgument key
  | none => .variable absentText

/-- The members of the request: their names, their texts and the expressions. -/
def requestEntries (operation : Operation) (url : Term) : List (String × String × Term) := [
  ("url", operation.addressText, url),
  ("method", Literal.string (Text.upper operation.httpMethod), .text (Text.upper operation.httpMethod)),
  ("queryParams", operation.queryText, operation.queryTerm),
  ("bodyArgs", operation.bodyText, operation.bodyTerm)]

theorem isVariable_words : Identifier.IsVariable inputArgument ∧ Identifier.IsVariable absentText := by
  unfold Identifier.IsVariable
  decide

section

variable {operation : Operation}
variable (rawNames : ∀ parameter ∈ operation.parameters, ∀ c ∈ parameter.name.toList,
  standsRaw c = true)
variable (rawBody : ∀ key, operation.bodyKey = some key → ∀ c ∈ key.toList, standsRaw c = true)

theorem embeds_absentText : Expression.Embeds absentText (.variable absentText) := by
  have raw : ∀ c ∈ absentText.toList, standsRaw c = true := List.all_eq_true.mp (by decide)
  exact Expression.embeds_of_plain (fun c member => ne_lineFeed_of_standsRaw (raw c member))
    (reads_variable isVariable_words.2)

theorem reads_inputAccess (raw : ∀ c ∈ key.toList, standsRaw c = true) :
    Reads (inputAccess key).toList (.member inputArgument key) :=
  reads_member isVariable_words.1 raw

theorem inputAccess_plain (raw : ∀ c ∈ key.toList, standsRaw c = true) :
    ∀ c ∈ (inputAccess key).toList, c ≠ '\n' := by
  have fixed : '\n' ∉ inputArgument.toList ∧ '\n' ∉ "[".toList ∧ '\n' ∉ "]".toList := by decide
  rintro c member rfl
  simp only [inputAccess, String.toList_append, List.mem_append] at member
  rcases member with ((inTarget | inOpening) | inKey) | inClosing
  · exact fixed.1 inTarget
  · exact fixed.2.1 inOpening
  · exact ne_lineFeed_of_standsRaw (standsRaw_of_mem_string raw inKey) rfl
  · exact fixed.2.2 inClosing

include rawBody in
theorem bodyText_reads : Reads operation.bodyText.toList operation.bodyTerm ∧
    Expression.Embeds operation.bodyText operation.bodyTerm := by
  unfold bodyText bodyTerm
  cases keyed : operation.bodyKey with
  | none => exact ⟨reads_variable isVariable_words.2, embeds_absentText⟩
  | some key =>
    have reads := reads_inputAccess (rawBody key keyed)
    exact ⟨reads, Expression.embeds_of_plain (inputAccess_plain (rawBody key keyed)) reads⟩

theorem queryMembers_eq (operation : Operation) : operation.queryMembers =
    Expression.membersOf (·.1) (fun entry => inputAccess entry.2) operation.keyedQuery := by
  simp [queryMembers, keyedQuery, Expression.membersOf]

include rawNames in
theorem queryText_reads : Reads operation.queryText.toList operation.queryTerm ∧
    Expression.Embeds operation.queryText operation.queryTerm := by
  have raw : ∀ entry ∈ operation.keyedQuery, (∀ c ∈ entry.1.toList, standsRaw c = true) ∧
      ∀ c ∈ entry.2.toList, standsRaw c = true := by
    intro entry member
    obtain ⟨⟨parameter, key⟩, present, rfl⟩ := List.mem_map.mp member
    have keyed := List.mem_of_mem_filter present
    exact ⟨rawNames parameter (exists_parameterKey keyed).1, raw_key rawNames keyed⟩
  unfold queryText queryTerm
  rw [queryMembers_eq]
  cases found : operation.keyedQuery with
  | nil => exact ⟨reads_variable isVariable_words.2, embeds_absentText⟩
  | cons first rest =>
    rw [found] at raw
    have rawKeys := fun entry member => (raw entry member).1
    have reads := fun entry member => reads_inputAccess (raw entry member).2
    have plain := fun entry member => inputAccess_plain (raw entry member).2
    exact ⟨Expression.reads_objectLiteral _ _ _ rawKeys fun entry member =>
        Expression.embeds_of_plain (plain entry member) (reads entry member),
      Expression.embeds_objectLiteral _ _ _ rawKeys plain reads⟩

theorem requestText_eq (operation : Operation) (url : Term) : operation.requestText =
    Expression.objectLiteral
      (Expression.membersOf (·.1) (·.2.1) (operation.requestEntries url)) := by
  have bare : Literal.propertyKey "url" = "url" ∧ Literal.propertyKey "method" = "method" ∧
      Literal.propertyKey "queryParams" = "queryParams" ∧
        Literal.propertyKey "bodyArgs" = "bodyArgs" := by decide
  simp only [requestText, Expression.membersOf, requestEntries, List.map_cons, List.map_nil, bare]

theorem raw_requestEntries (operation : Operation) (url : Term) :
    ∀ entry ∈ operation.requestEntries url, ∀ c ∈ entry.1.toList, standsRaw c = true := by
  have raw : ["url", "method", "queryParams", "bodyArgs"].all
      (fun name => name.toList.all standsRaw) = true := by decide
  intro entry member
  exact List.all_eq_true.mp (List.all_eq_true.mp raw entry.1 (List.mem_map.mpr ⟨entry, member, rfl⟩))

theorem embeds_string {text : String} (raw : ∀ c ∈ text.toList, standsRaw c = true) :
    Expression.Embeds (Literal.string text) (.text text) :=
  Expression.embeds_of_plain
    (fun _ member => ne_lineFeed_of_standsRaw (standsRaw_of_mem_string raw member)) (reads_text raw)

include rawNames rawBody in
/-- The request is read as an object of its four members when the address is one template literal on
one line. -/
theorem read_requestText (address : read operation.addressText = some url)
    (oneLine : ∀ c ∈ operation.addressText.toList, c ≠ '\n')
    (rawMethod : ∀ c ∈ (Text.upper operation.httpMethod).toList, standsRaw c = true) :
    read operation.requestText = some (.object [("url", url),
      ("method", .text (Text.upper operation.httpMethod)), ("queryParams", operation.queryTerm),
      ("bodyArgs", operation.bodyTerm)]) := by
  have template : operation.addressText.toList = '\x60' ::
      (("$\x7bbaseUrl\x7d" ++ urlTemplate operation.pathVariables operation.rawPath).toList ++
        ['\x60']) := by
    simp [addressText, Literal.template]
  have embeds : ∀ entry ∈ operation.requestEntries url, Expression.Embeds entry.2.1 entry.2.2 := by
    intro entry member
    simp only [requestEntries, List.mem_cons, List.not_mem_nil, or_false] at member
    rcases member with rfl | rfl | rfl | rfl
    · exact Expression.embeds_of_plain oneLine (reads_of_read_template template address)
    · exact embeds_string rawMethod
    · exact (queryText_reads rawNames).2
    · exact (bodyText_reads rawBody).2
  rw [requestText_eq operation url]
  exact (Expression.reads_objectLiteral _ _ (·.2.2) (operation.raw_requestEntries url) embeds).read_eq

end

/-! ### What the request is worth -/

/-- The query parameters of a request: under each declared name the input of that parameter. -/
def queryResult (operation : Operation) (members : String → String → α) : Result α :=
  match operation.keyedQuery with
  | [] => .undefined
  | keyed => .record (keyed.map fun (name, key) => (name, .given (members inputArgument key)))

/-- The body of a request: the input under the key of the body. -/
def bodyResult (operation : Operation) (members : String → String → α) : Result α :=
  match operation.bodyKey with
  | some key => .given (members inputArgument key)
  | none => .undefined

section

variable {operation : Operation} {members : String → String → α} {display : α → String}

theorem any_scope_inputArgument (operation : Operation) :
    operation.scope.any (·.localName = inputArgument) = false := by
  have free := (List.nodup_cons.mp operation.nodup_scope).1
  rw [List.any_eq_false]
  intro binding member same
  exact free (List.mem_map.mpr ⟨binding, member, of_decide_eq_true same⟩)

theorem value_absentText (free : ∀ pathLocal ∈ operation.pathLocals, pathLocal.localName ≠ absentText) :
    (Term.variable absentText).value operation.scope members display = some .undefined := by
  have unbound : operation.scope.find? (·.localName = absentText) = none := by
    rw [List.find?_eq_none]
    intro binding member same
    rcases List.mem_append.mp member with configured | bound
    · have fixed : ∀ name ∈ ["baseUrl", "adapter"], name ≠ absentText := by decide
      refine fixed binding.localName ?_ (of_decide_eq_true same)
      rcases List.mem_cons.mp configured with rfl | last
      · exact List.mem_cons_self
      · exact List.mem_cons_of_mem _ (List.mem_singleton.mp last ▸ List.mem_cons_self)
    · obtain ⟨pathLocal, present, rfl⟩ := List.mem_map.mp bound
      exact free pathLocal present (of_decide_eq_true same)
  rw [Term.value, unbound]
  rfl

theorem value_member (key : String) :
    (Term.member inputArgument key).value operation.scope members display =
      some (.given (members inputArgument key)) := by
  rw [Term.value, any_scope_inputArgument]
  rfl

theorem value_bodyTerm (uncaptured : operation.body = none →
      ∀ pathLocal ∈ operation.pathLocals, pathLocal.localName ≠ absentText) :
    operation.bodyTerm.value operation.scope members display = some (operation.bodyResult members) := by
  unfold bodyTerm bodyResult
  cases keyed : operation.bodyKey with
  | some key => exact value_member key
  | none => exact value_absentText (uncaptured (Option.map_eq_none_iff.mp keyed))

theorem value_queryTerm (distinct : (operation.queryParameters.map (·.name)).Nodup)
    (noPrototype : "__proto__" ∉ operation.queryParameters.map (·.name))
    (uncaptured : operation.queryParameters = [] →
      ∀ pathLocal ∈ operation.pathLocals, pathLocal.localName ≠ absentText) :
    operation.queryTerm.value operation.scope members display =
      some (operation.queryResult members) := by
  rw [← map_keyedQuery] at distinct noPrototype
  unfold queryTerm queryResult
  cases keyed : operation.keyedQuery with
  | nil =>
    have none : operation.queryParameters = [] := by
      have names := operation.map_keyedQuery
      rw [keyed] at names
      exact List.map_eq_nil_iff.mp names.symm
    exact value_absentText (uncaptured none)
  | cons first rest =>
    rw [keyed] at distinct noPrototype
    have worth : Term.values operation.scope members display _ = some _ :=
      values_members operation.any_scope_inputArgument (first :: rest)
    have names : ((first :: rest).map fun (name, key) =>
        (name, Result.given (members inputArgument key))).map (·.1) = (first :: rest).map (·.1) := by
      rw [List.map_map]
      rfl
    exact value_object worth (names ▸ distinct) (names ▸ noPrototype)

end

/-- In the scope of the statements of a method, the body and the query parameters of the request are the
inputs under the keys of the body and of these parameters, and what is not there is undefined. This is so
unless a path local has the name of the undefined value where one of the two is not there, or a query
parameter has the name under which an object literal sets its prototype. -/
theorem evaluate_request (operation : Operation)
    (rawNames : ∀ parameter ∈ operation.parameters, ∀ c ∈ parameter.name.toList, standsRaw c = true)
    (rawBody : ∀ key, operation.bodyKey = some key → ∀ c ∈ key.toList, standsRaw c = true)
    (distinct : (operation.queryParameters.map (·.name)).Nodup)
    (noPrototype : "__proto__" ∉ operation.queryParameters.map (·.name))
    (uncaptured : operation.body = none ∨ operation.queryParameters = [] →
      ∀ pathLocal ∈ operation.pathLocals, pathLocal.localName ≠ absentText) :
    (operation.bodyKey.toList ++ operation.inputKeys).Nodup ∧
      ∃ scope query body,
        readStatements operation.method.statements = some (scope, operation.answer) ∧
          read operation.queryText = some query ∧ read operation.bodyText = some body ∧
          (∀ url, read operation.addressText = some url →
            (∀ c ∈ operation.addressText.toList, c ≠ '\n') →
            (∀ c ∈ (Text.upper operation.httpMethod).toList, standsRaw c = true) →
            read operation.requestText = some (.object [("url", url),
              ("method", .text (Text.upper operation.httpMethod)), ("queryParams", query),
              ("bodyArgs", body)])) ∧
          ∀ (α : Type) (members : String → String → α) (display : α → String),
            (Term.variable "adapter").value scope members display =
              some (.given (members "this.configuration" "adapter")) ∧
            query.value scope members display = some (operation.queryResult members) ∧
            body.value scope members display = some (operation.bodyResult members) := by
  have keysDistinct : (operation.bodyKey.toList ++ operation.inputKeys).Nodup :=
    nodup_parameterKeys (by cases operation.bodyKey <;> simp) operation.parameters
  refine ⟨keysDistinct, operation.scope, operation.queryTerm, operation.bodyTerm,
    readStatements_statements fun _ member => readable_of_raw rawNames member,
    (queryText_reads rawNames).1.read_eq, (bodyText_reads rawBody).1.read_eq,
    fun _ address oneLine rawMethod => read_requestText rawNames rawBody address oneLine rawMethod, ?_⟩
  intro α members display
  have adapter : (⟨"adapter", "this.configuration", "adapter"⟩ : Binding) ∈ operation.scope :=
    List.mem_append_left _ (List.mem_cons_of_mem _ List.mem_cons_self)
  refine ⟨?_, value_queryTerm distinct noPrototype fun none => uncaptured (.inr none),
    value_bodyTerm fun none => uncaptured (.inl none)⟩
  rw [Term.value, find?_scope adapter]

/-- An operation without a body, with a path parameter and a query parameter of one name. -/
def searching : Operation where
  rawPath := "/users/\x7bid\x7d"
  httpMethod := "get"
  serviceName := "UserService"
  methodName := "search"
  parameters := [⟨"id", true, .path, .string⟩, ⟨"id", false, .query, .string⟩,
    ⟨"sort-by", false, .query, .string⟩]
  body := none
  response := none
  skipped := []

theorem evaluate_request_searching : ∃ scope query body,
    readStatements searching.method.statements = some (scope, searching.answer) ∧
      read searching.queryText = some query ∧ read searching.bodyText = some body ∧
      ∀ (α : Type) (members : String → String → α) (display : α → String),
        query.value scope members display = some (.record [("id", .given (members "props" "idQuery")),
            ("sort-by", .given (members "props" "sort-by"))]) ∧
          body.value scope members display = some .undefined := by
  have rawNames : ∀ parameter ∈ searching.parameters, ∀ c ∈ parameter.name.toList,
      standsRaw c = true := by
    simp [searching, standsRaw]
  have names : searching.queryParameters.map (·.name) = ["id", "sort-by"] := by decide
  have locals : searching.pathLocals.map (·.localName) = ["id"] := by decide +kernel
  have uncaptured : ∀ pathLocal ∈ searching.pathLocals, pathLocal.localName ≠ absentText := by
    intro pathLocal member
    have named : pathLocal.localName ∈ searching.pathLocals.map (·.localName) :=
      List.mem_map.mpr ⟨pathLocal, member, rfl⟩
    rw [locals, List.mem_singleton] at named
    rw [named]
    decide
  have keyed : searching.keyedQuery = [("id", "idQuery"), ("sort-by", "sort-by")] := by
    decide +kernel
  have rawBody : ∀ key, searching.bodyKey = some key → ∀ c ∈ key.toList, standsRaw c = true := by
    intro key present
    cases present
  obtain ⟨_, scope, query, body, statementsRead, queryRead, bodyRead, _, worth⟩ :=
    evaluate_request searching rawNames rawBody (names ▸ by decide) (names ▸ by decide)
      fun _ => uncaptured
  refine ⟨scope, query, body, statementsRead, queryRead, bodyRead, ?_⟩
  intro α members display
  obtain ⟨_, queryWorth, bodyWorth⟩ := worth α members display
  rw [queryResult, keyed] at queryWorth
  exact ⟨queryWorth, bodyWorth⟩

/-- An operation without a body whose path parameter has the name of the undefined value. -/
def capturing : Operation where
  rawPath := "/x/\x7bundefined\x7d"
  httpMethod := "get"
  serviceName := "Service"
  methodName := "unknownName"
  parameters := [⟨"undefined", true, .path, .string⟩]
  body := none
  response := none
  skipped := []

/-- The parameter of this operation in a document. -/
def capturingParameter : Entries := [
  (.text "name", .text "undefined"), (.text "in", .text "path"), (.text "required", .bool true),
  (.text "schema", .mapping [(.text "type", .text "string")])]

/-- Where there is no body, the local of this path parameter is sent as the body. -/
theorem capturing_bodyArgs : capturing.Declared ∧ capturing.bodyKey = none ∧ ∃ scope body,
    readStatements capturing.method.statements = some (scope, capturing.answer) ∧
      read capturing.bodyText = some body ∧
      ∀ (members : String → String → String) (display : String → String),
        body.value scope members display = some (.given (members "props" "undefined")) ∧
          body.value scope members display ≠ some .undefined := by
  have statementsRead : readStatements capturing.method.statements =
      some (capturing.scope, capturing.answer) := by decide +kernel
  have bound : capturing.scope.find? (·.localName = absentText) =
      some ⟨"undefined", "props", "undefined"⟩ := by decide +kernel
  have declared : capturing.Declared :=
    ⟨"/x/\x7bundefined\x7d", "get",
      [(.text "parameters", .list [.mapping capturingParameter])], [], rfl⟩
  have read : read capturing.bodyText = some (.variable absentText) :=
    (reads_variable isVariable_words.2).read_eq
  refine ⟨declared, rfl, capturing.scope, .variable absentText, statementsRead, read, ?_⟩
  intro members display
  have captured : (Term.variable absentText).value capturing.scope members display =
      some (.given (members "props" "undefined")) := by
    rw [Term.value, bound]
  rw [captured]
  exact ⟨rfl, by simp⟩

end TypedClient.Operation
