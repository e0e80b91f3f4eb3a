import TypedClient.Proofs.Keyed
import TypedClient.Proofs.Method.Bindings
import TypedClient.Proofs.Method.Url
import TypedClient.Proofs.Source.ObjectLiteral

namespace TypedClient

namespace Operation

open Script

/-- The character stands for itself in every literal. -/
def IsQuiet (c : Char) : Prop :=
  c ≠ '\x60' ∧ c ≠ '\\' ∧ c ≠ '\n' ∧ c ≠ '\r'

/-- The raw path of some pieces with the inputs of their placeholders: for each, the input under the
key of the first path parameter with its name. -/
def resolve (operation : Operation) (inputs : String → String) : List UrlPiece → Option String
  | [] => some ""
  | .char c :: rest => (operation.resolve inputs rest).map (String.singleton c ++ ·)
  | .placeholder name :: rest => do
    let key ← operation.pathKey? name
    let path ← operation.resolve inputs rest
    return inputs key ++ path

theorem lookup_pathVariables (operation : Operation) (name : String) :
    operation.pathVariables.lookup name =
      (operation.pathLocals.find? (·.parameterName = name)).map (·.localName) := by
  unfold pathVariables
  induction operation.pathLocals with
  | nil => rfl
  | cons pathLocal locals ih =>
    by_cases same : pathLocal.parameterName = name
    · simp [same]
    · have other : (name == pathLocal.parameterName) = false := beq_false_of_ne (Ne.symm same)
      simp [List.lookup_cons, same, other, ih]

/-- The variable for a placeholder with a declared name is a local, bound to the key of the first path
parameter with that name. -/
theorem exists_local {operation : Operation}
    (declared : ∃ parameter ∈ operation.pathParameters, parameter.name = name) :
    ∃ pathLocal ∈ operation.pathLocals,
      UrlPiece.variableOf operation.pathVariables name = pathLocal.localName ∧
        operation.pathKey? name = some pathLocal.key := by
  obtain ⟨key, keyed⟩ := exists_pathKey declared
  have first : (operation.pathLocals.find? (·.parameterName = name)).map (·.key) = some key :=
    (PathLocal.find?_bindAll List.not_mem_nil _ _).trans keyed
  obtain ⟨pathLocal, found, rfl⟩ := Option.map_eq_some_iff.mp first
  refine ⟨pathLocal, List.mem_of_find?_eq_some found, ?_, keyed⟩
  rw [UrlPiece.variableOf, lookup_pathVariables, found]
  rfl

theorem readable_of_mem_pathLocals {operation : Operation}
    (quiet : ∀ parameter ∈ operation.parameters, ∀ c ∈ parameter.name.toList, IsQuiet c)
    (member : pathLocal ∈ operation.pathLocals) : pathLocal.Readable := by
  refine readable_of_raw ?_ member
  intro parameter present c inside
  obtain ⟨_, _, noLineFeed, noReturn⟩ := quiet parameter present c inside
  simp [standsRaw, noLineFeed, noReturn]

section

variable {operation : Operation} {pieces : List UrlPiece}
variable (spelled : UrlPiece.ofPath operation.rawPath = pieces)
variable (shown : ∀ piece ∈ pieces, piece.Shown operation.pathVariables)

/-- What stands in the template literal of a path behind the base address. -/
def pathText (operation : Operation) (pieces : List UrlPiece) : List Char :=
  (String.join (pieces.map (UrlPiece.template operation.pathVariables))).toList

include spelled in
theorem toList_addressText : operation.addressText.toList =
    "\x60$\x7bbaseUrl\x7d".toList ++ (operation.pathText pieces ++ ['\x60']) := by
  simp [addressText, Literal.template, urlTemplate, spelled, pathText]

include spelled shown in
theorem addressText_oneLine : ∀ c ∈ operation.addressText.toList, c ≠ '\n' := by
  intro c member
  have front : '\n' ∉ "\x60$\x7bbaseUrl\x7d".toList := by decide
  rw [toList_addressText spelled] at member
  rcases List.mem_append.mp member with inFront | behind
  · exact fun lineFeed => front (lineFeed ▸ inFront)
  · rcases List.mem_append.mp behind with inPath | closing
    · exact UrlPiece.ne_lineFeed_of_mem_templates shown inPath
    · rw [List.mem_singleton.mp closing]
      decide

include spelled shown in
/-- The address member of the request is read as the base address and the parts of the path. -/
theorem readAddress_requestText : readAddress operation.requestText =
    some (.substitution "baseUrl" :: pieces.map (UrlPiece.part operation.pathVariables)) := by
  obtain ⟨rest, object⟩ := Expression.exists_toList_objectLiteral ("url", operation.addressText)
    [("method", Literal.string (Text.upper operation.httpMethod)),
      ("queryParams", operation.queryText), ("bodyArgs", operation.bodyText)]
  have whole : operation.requestText.toList = "\x7b\n    url: \x60".toList ++
      '$' :: '\x7b' :: ("baseUrl".toList ++
        '\x7d' :: (operation.pathText pieces ++ '\x60' :: ',' :: rest)) := by
    rw [requestText, object,
      Expression.objectMember_of_plain "url" (addressText_oneLine spelled shown)]
    simp [toList_addressText spelled]
  have baseIdentifier : Identifier.isIdentifier "baseUrl".toList = true := by decide
  have baseRead := readTemplate_substitution baseIdentifier
    (operation.pathText pieces ++ '\x60' :: ',' :: rest)
  have pathRead : readTemplate (operation.pathText pieces ++ '\x60' :: ',' :: rest) =
      some (pieces.map (UrlPiece.part operation.pathVariables), ',' :: rest) :=
    UrlPiece.readTemplate_templates shown _
  rw [readAddress, whole, Text.dropPrefix?_append_self]
  simp only [Option.bind_eq_bind, Option.bind_some, baseRead, pathRead, Option.map_some]
  rfl

end

/-- A member of the configuration or an input is found under its variable. -/
theorem find?_scope {operation : Operation} (member : binding ∈ operation.scope) :
    operation.scope.find? (·.localName = binding.localName) = some binding :=
  Keyed.find?_key (List.nodup_cons.mp operation.nodup_scope).2 member

/-- The parts of a path have the value of the path with its inputs. -/
theorem evaluate_parts {operation : Operation} {pieces : List UrlPiece}
    (declared : ∀ name, .placeholder name ∈ pieces →
      ∃ parameter ∈ operation.pathParameters, parameter.name = name)
    (members : String → String → String) :
    ∃ path, operation.resolve (members inputArgument) pieces = some path ∧
      evaluate operation.scope members (pieces.map (UrlPiece.part operation.pathVariables)) =
        some path := by
  induction pieces with
  | nil => exact ⟨"", rfl, rfl⟩
  | cons piece pieces ih =>
    obtain ⟨path, resolved, evaluated⟩ :=
      ih fun name member => declared name (List.mem_cons_of_mem piece member)
    cases piece with
    | char c =>
      refine ⟨String.singleton c ++ path, ?_, ?_⟩
      · rw [resolve, resolved]
        rfl
      · rw [List.map_cons, UrlPiece.part, evaluate, evaluated]
        rfl
    | placeholder name =>
      obtain ⟨pathLocal, present, isVariable, keyed⟩ := exists_local (declared name List.mem_cons_self)
      have bound : (⟨pathLocal.localName, inputArgument, pathLocal.key⟩ : Binding) ∈ operation.scope :=
        List.mem_append_right _ (List.mem_map.mpr ⟨pathLocal, present, rfl⟩)
      refine ⟨members inputArgument pathLocal.key ++ path, ?_, ?_⟩
      · rw [resolve, keyed, resolved]
        rfl
      · rw [List.map_cons, UrlPiece.part, isVariable, evaluate, evaluated, find?_scope bound]
        rfl

/-- The request of a method goes to the base address followed by the raw path in which every
placeholder is filled with the input under the key of the first path parameter with its name. The
locals that the statements bind are all different and different from the argument. -/
theorem evaluate_address (operation : Operation) (pieces : List UrlPiece)
    (spelled : operation.rawPath = String.join (pieces.map UrlPiece.text))
    (delimited : ∀ piece ∈ pieces, piece.Delimited)
    (declared : ∀ name, .placeholder name ∈ pieces →
      ∃ parameter ∈ operation.pathParameters, parameter.name = name)
    (quietPath : ∀ c ∈ operation.rawPath.toList, IsQuiet c)
    (quietNames : ∀ parameter ∈ operation.parameters, ∀ c ∈ parameter.name.toList, IsQuiet c) :
    ∃ scope parts,
      readStatements operation.method.statements = some (scope, operation.answer) ∧
        (inputArgument :: scope.map (·.localName)).Nodup ∧
        readAddress operation.requestText = some parts ∧
        ∀ members : String → String → String,
          ∃ path, operation.resolve (members inputArgument) pieces = some path ∧
            evaluate scope members parts =
              some (members "this.configuration" "baseUrl" ++ path) := by
  have shown : ∀ piece ∈ pieces, piece.Shown operation.pathVariables := by
    intro piece member
    cases piece with
    | char c =>
      have inPath : c ∈ operation.rawPath.toList := by
        rw [spelled, String.toList_join, List.flatMap_map]
        exact List.mem_flatMap.mpr ⟨.char c, member, by simp [UrlPiece.text]⟩
      obtain ⟨noBacktick, noBackslash, noLineFeed, noReturn⟩ := quietPath c inPath
      exact ⟨delimited (.char c) member, ⟨noBacktick, noBackslash, noReturn⟩, noLineFeed⟩
    | placeholder name =>
      obtain ⟨pathLocal, present, isVariable, _⟩ := exists_local (declared name member)
      have identifier := (readable_of_mem_pathLocals quietNames present).isVariable.1
      rw [UrlPiece.Shown, isVariable]
      exact identifier
  have readPieces : UrlPiece.ofPath operation.rawPath = pieces := by
    rw [spelled, UrlPiece.ofPath_join delimited]
  refine ⟨operation.scope, _, readStatements_statements fun pathLocal member =>
    readable_of_mem_pathLocals quietNames member, operation.nodup_scope,
    readAddress_requestText readPieces shown, ?_⟩
  intro members
  obtain ⟨path, resolved, evaluated⟩ := evaluate_parts declared members
  have base : (⟨"baseUrl", "this.configuration", "baseUrl"⟩ : Binding) ∈ operation.scope :=
    List.mem_append_left _ List.mem_cons_self
  refine ⟨path, resolved, ?_⟩
  rw [evaluate, evaluated, find?_scope base]
  rfl

/-- An operation with a body and a path parameter of one name, and with two names from which one
variable is derived. -/
def clashing : Operation where
  rawPath := "/$\x7buser\x7d/\x7bowner-id\x7d/\x7bownerId\x7d"
  httpMethod := "put"
  serviceName := "UserService"
  methodName := "move"
  parameters := [⟨"user", true, .path, .string⟩, ⟨"owner-id", true, .path, .string⟩,
    ⟨"ownerId", true, .path, .string⟩]
  body := some ⟨"user", .ref "User", true, some "User"⟩
  response := none
  skipped := []

theorem evaluate_address_clashing :
    ∃ scope parts,
      readStatements clashing.method.statements = some (scope, clashing.answer) ∧
        readAddress clashing.requestText = some parts ∧
        ∀ members : String → String → String,
          evaluate scope members parts = some (members "this.configuration" "baseUrl" ++
            "/" ++ "$" ++ members "props" "userPath" ++ "/" ++ members "props" "owner-id" ++
            "/" ++ members "props" "ownerId") := by
  let pieces : List UrlPiece := [.char '/', .char '$', .placeholder "user", .char '/',
    .placeholder "owner-id", .char '/', .placeholder "ownerId"]
  have delimited : ∀ piece ∈ pieces, piece.Delimited := by
    simp [pieces, UrlPiece.Delimited, UrlPiece.IsPlain]
  have declared : ∀ name, .placeholder name ∈ pieces →
      ∃ parameter ∈ clashing.pathParameters, parameter.name = name := by
    simp [pieces, clashing, pathParameters]
  have quietPath : ∀ c ∈ clashing.rawPath.toList, IsQuiet c := by
    simp [clashing, IsQuiet]
  have quietNames : ∀ parameter ∈ clashing.parameters, ∀ c ∈ parameter.name.toList, IsQuiet c := by
    simp [clashing, IsQuiet]
  have keys : clashing.pathKey? "user" = some "userPath" ∧
      clashing.pathKey? "owner-id" = some "owner-id" ∧
        clashing.pathKey? "ownerId" = some "ownerId" := by
    decide +kernel
  obtain ⟨scope, parts, statementsRead, _, addressRead, evaluated⟩ :=
    evaluate_address clashing pieces (by decide) delimited declared quietPath quietNames
  refine ⟨scope, parts, statementsRead, addressRead, ?_⟩
  intro members
  obtain ⟨path, resolved, value⟩ := evaluated members
  have filled : "/" ++ ("$" ++ (members "props" "userPath" ++ ("/" ++ (members "props" "owner-id" ++
      ("/" ++ members "props" "ownerId"))))) = path := by
    simpa [pieces, resolve, keys, inputArgument] using resolved
  rw [value, ← filled]
  simp only [String.append_assoc]

end Operation

end TypedClient
