import TypedClient.Proofs.Distinct
import TypedClient.Proofs.Keyed
import TypedClient.Proofs.Method.Bindings
import TypedClient.Proofs.Operation.Extract

namespace TypedClient

namespace Script

/-- Puts the lines of a statement together, given whether a string literal is open. Outside of string
literals a line feed in front of a colon separates nothing. -/
def joinLines : Bool → List Char → List Char
  | _, [] => []
  | true, '\\' :: c :: rest => '\\' :: c :: joinLines true rest
  | false, '\n' :: ':' :: rest => ':' :: joinLines false rest
  | inside, c :: rest => c :: joinLines (inside != (c == '\x27')) rest

theorem joinLines_eq_self (oneLine : ∀ c ∈ chars, c ≠ '\n') (inside : Bool) :
    joinLines inside chars = chars := by
  fun_induction joinLines inside chars with
  | case1 => rfl
  | case2 c rest ih =>
    rw [ih fun other member => oneLine other (by simp [member])]
  | case3 => exact absurd rfl (oneLine '\n' List.mem_cons_self)
  | case4 inside c rest _ _ ih =>
    rw [ih fun other member => oneLine other (List.mem_cons_of_mem c member)]

/-- Reads the statements of a method in front of the empty line: what they bind. -/
def readBindings (statements : List String) : Option (List Binding) :=
  ((statements.takeWhile (· ≠ "")).mapM fun statement =>
    readDestructure (String.ofList (joinLines false statement.toList))).map List.flatten

end Script

namespace PathLocal

open Script

/-- There is a local for every name of a path parameter that is not bound yet, in order. -/
theorem map_parameterName_bindAll (used bound : List String) (keyed : List (Parameter × String)) :
    (bindAll used bound keyed).map (·.parameterName) =
      (((keyed.map (·.1)).filter (·.place = .path)).map (·.name) |>.filter (· ∉ bound)).eraseDups := by
  induction keyed generalizing used bound with
  | nil => rfl
  | cons first rest ih =>
    obtain ⟨parameter, key⟩ := first
    rw [bindAll]
    by_cases inPath : parameter.place = .path
    · by_cases isBound : parameter.name ∈ bound
      · simp [inPath, isBound, ih]
      · rw [if_pos ⟨inPath, isBound⟩, List.map_cons, ih, List.map_cons,
          List.filter_cons_of_pos (by simpa using inPath), List.map_cons,
          Distinct.eraseDups_filter_cons isBound]
    · simp [inPath, ih]

theorem standsRaw_of_mem_binding {pathLocal : PathLocal} (readable : pathLocal.Readable)
    (member : c ∈ pathLocal.binding.toList) : standsRaw c = true := by
  have inLocal (inside : c ∈ pathLocal.localName.toList) : standsRaw c = true :=
    standsRaw_of_isPart (Identifier.isPart_of_mem readable.isVariable.1 inside)
  unfold binding Literal.propertyKey at member
  split at member
  · exact readable.raw c member
  · rw [String.toList_append, String.toList_append, List.append_assoc, List.mem_append,
      List.mem_append] at member
    rcases member with inKey | inColon | inside
    · split at inKey
      · exact readable.raw c inKey
      · exact standsRaw_of_mem_string readable.raw inKey
    · have colon : ": ".toList.all standsRaw = true := by decide
      exact List.all_eq_true.mp colon c inColon
    · exact inLocal inside

/-- The statement that takes readable locals from the input record is one line. -/
theorem oneLine_destructure {locals : List PathLocal}
    (readable : ∀ pathLocal ∈ locals, pathLocal.Readable) :
    ∀ c ∈ (Expression.destructure Operation.inputArgument (locals.map (·.binding))).toList,
      c ≠ '\n' := by
  intro c member
  apply ne_lineFeed_of_standsRaw
  have around : ["const \x7b ", " \x7d = ", Operation.inputArgument, ";"].all
      (fun part => part.toList.all standsRaw) = true := by decide
  have fixed {part : String} (isPart : part ∈ ["const \x7b ", " \x7d = ", Operation.inputArgument, ";"])
      (inside : c ∈ part.toList) : standsRaw c = true :=
    List.all_eq_true.mp (List.all_eq_true.mp around part isPart) c inside
  simp only [Expression.destructure, String.toList_append, List.mem_append] at member
  rcases member with (((front | inBindings) | middle) | target) | last
  · exact fixed List.mem_cons_self front
  · rcases Text.mem_commaSeparated inBindings with rfl | rfl | ⟨binding, present, inside⟩
    · decide
    · decide
    · obtain ⟨pathLocal, isLocal, rfl⟩ := List.mem_map.mp present
      exact standsRaw_of_mem_binding (readable pathLocal isLocal) inside
  · exact fixed (by simp) middle
  · exact fixed (by simp) target
  · exact fixed (by simp) last

end PathLocal

namespace Operation

open Script

/-- The key of a path local is the one of the first path parameter with its name. -/
theorem pathKey?_of_mem {operation : Operation} (member : pathLocal ∈ operation.pathLocals) :
    operation.pathKey? pathLocal.parameterName = some pathLocal.key := by
  have distinct : (operation.pathLocals.map (·.parameterName)).Nodup := by
    rw [pathLocals, PathLocal.map_parameterName_bindAll]
    exact Distinct.nodup_eraseDups _
  have found := Keyed.find?_key distinct member
  have first := PathLocal.find?_bindAll (List.not_mem_nil (a := pathLocal.parameterName))
    PathLocal.reserved operation.keyedParameters
  rw [← pathLocals, found] at first
  exact first.symm

/-- The names of the path parameters have readable locals when none of them has a line end. -/
theorem readable_of_rawPath {operation : Operation}
    (raw : ∀ parameter ∈ operation.pathParameters, ∀ c ∈ parameter.name.toList, standsRaw c = true)
    (member : pathLocal ∈ operation.pathLocals) : pathLocal.Readable := by
  obtain ⟨⟨parameter, key⟩, found, same⟩ := Option.map_eq_some_iff.mp (pathKey?_of_mem member)
  obtain ⟨present, earlier, chosen⟩ := exists_parameterKey (List.mem_of_find?_eq_some found)
  have inPath : parameter.place = .path ∧ parameter.name = pathLocal.parameterName := by
    simpa using List.find?_some found
  refine ⟨(PathLocal.mem_bindAll member).2, fun c inside => ?_⟩
  rw [← same, show key = parameterKey earlier parameter from chosen] at inside
  rcases mem_parameterKey inside with inName | part
  · exact raw parameter (List.mem_filter.mpr ⟨present, decide_eq_true inPath.1⟩) c inName
  · exact standsRaw_of_isPart part

/-- What every method takes from the configuration. -/
def configurationBindings : List Binding :=
  [⟨"baseUrl", "this.configuration", "baseUrl"⟩, ⟨"adapter", "this.configuration", "adapter"⟩]

theorem readBindings_statements {operation : Operation}
    (readable : ∀ pathLocal ∈ operation.pathLocals, pathLocal.Readable) :
    readBindings operation.statements = some (configurationBindings ++
      operation.pathLocals.map fun pathLocal => ⟨pathLocal.localName, inputArgument, pathLocal.key⟩) := by
  have configuration : readDestructure (String.ofList (joinLines false (Expression.destructure
      ("this." ++ configurationMember) ["baseUrl", "adapter"]).toList)) =
        some configurationBindings := by
    decide +kernel
  have written (target : String) (members : List String) :
      Expression.destructure target members ≠ "" := by
    simp [Expression.destructure]
  rw [readBindings, statements]
  cases found : operation.pathLocals with
  | nil =>
    simp [written, configuration]
  | cons pathLocal locals =>
    have inputs : readDestructure (Expression.destructure inputArgument _) = _ :=
      PathLocal.readDestructure_bindings (List.cons_ne_nil pathLocal locals) (found ▸ readable)
        (by decide)
    have oneLine := PathLocal.oneLine_destructure (found ▸ readable)
    rw [List.map_cons, List.map_cons] at inputs
    rw [List.map_cons] at oneLine
    simp [written, configuration, joinLines_eq_self oneLine, inputs]

/-- The locals for path parameters: one for every name, in order, all of them different and different
from what else the method declares, each able to name a variable. Unless a name has a line end, the
statements take each from the input record under the key of the first path parameter with its name. -/
theorem pathLocals_destructured (operation : Operation) :
    operation.pathVariables.map (·.1) = (operation.pathParameters.map (·.name)).eraseDups ∧
      (["baseUrl", "adapter", "props"] ++ operation.pathVariables.map (·.2)).Nodup ∧
      (∀ bound ∈ operation.pathVariables, Identifier.IsVariable bound.2) ∧
      ((∀ parameter ∈ operation.pathParameters, ∀ c ∈ parameter.name.toList, standsRaw c = true) →
        ∃ bindings,
          readBindings operation.method.statements = some (configurationBindings ++ bindings) ∧
            List.Forall₂ (fun bound binding => ∃ key, operation.pathKey? bound.1 = some key ∧
              binding = ⟨bound.2, "props", key⟩) operation.pathVariables bindings ∧
            ("props" :: (configurationBindings ++ bindings).map (·.localName)).Nodup) := by
  have names : operation.pathVariables.map (·.1) =
      (operation.pathParameters.map (·.name)).eraseDups := by
    rw [pathVariables, List.map_map]
    exact (PathLocal.map_parameterName_bindAll _ _ _).trans
      (by simp [(map_keyedParameters operation).1, pathParameters])
  refine ⟨names, ?_, ?_, ?_⟩
  · rw [pathVariables, List.map_map]
    exact PathLocal.nodup_bindAll (by decide) [] operation.keyedParameters
  · intro bound member
    obtain ⟨pathLocal, present, rfl⟩ := List.mem_map.mp member
    exact (PathLocal.mem_bindAll present).2
  · intro raw
    refine ⟨_, readBindings_statements fun _ member => readable_of_rawPath raw member, ?_, ?_⟩
    · rw [pathVariables, List.forall₂_map_left_iff, List.forall₂_map_right_iff, List.forall₂_same]
      exact fun pathLocal member => ⟨pathLocal.key, pathKey?_of_mem member, rfl⟩
    · exact operation.nodup_scope

/-- An operation with two names from which one variable is derived, one of them twice, and with the name
of a variable that every method has. -/
def colliding : Operation where
  rawPath := "/\x7buser-id\x7d/\x7buserId\x7d/\x7bbaseUrl\x7d"
  httpMethod := "get"
  serviceName := "Users"
  methodName := "get"
  parameters := [⟨"user-id", true, .path, .string⟩, ⟨"userId", true, .path, .string⟩,
    ⟨"user-id", true, .path, .number⟩, ⟨"baseUrl", true, .path, .string⟩]
  body := none
  response := none
  skipped := []

theorem pathLocals_destructured_colliding :
    (∀ parameter ∈ colliding.pathParameters, ∀ c ∈ parameter.name.toList, standsRaw c = true) ∧
      colliding.pathVariables =
        [("user-id", "userId"), ("userId", "userIdParam"), ("baseUrl", "baseUrlParam")] ∧
      ∃ bindings,
        readBindings colliding.method.statements = some (configurationBindings ++ bindings) ∧
          bindings = [⟨"userId", "props", "user-id"⟩, ⟨"userIdParam", "props", "userId"⟩,
            ⟨"baseUrlParam", "props", "baseUrl"⟩] := by
  have raw : ∀ parameter ∈ colliding.pathParameters, ∀ c ∈ parameter.name.toList,
      standsRaw c = true := by
    simp [colliding, pathParameters, standsRaw]
  have bound : colliding.pathVariables =
      [("user-id", "userId"), ("userId", "userIdParam"), ("baseUrl", "baseUrlParam")] := by
    decide +kernel
  have keys : ["user-id", "userId", "baseUrl"].map colliding.pathKey? =
      [some "user-id", some "userId", some "baseUrl"] := by decide +kernel
  obtain ⟨bindings, read, each, _⟩ := (pathLocals_destructured colliding).2.2.2 raw
  simp only [List.map_cons, List.map_nil, List.cons.injEq, and_true] at keys
  obtain ⟨first, second, third⟩ := keys
  simp only [bound, List.forall₂_cons_left_iff, List.forall₂_nil_left_iff, first, second, third,
    Option.some.injEq] at each
  obtain ⟨_, _, ⟨_, rfl, rfl⟩, ⟨_, _, ⟨_, rfl, rfl⟩, ⟨_, _, ⟨_, rfl, rfl⟩, rfl, rfl⟩, rfl⟩, rfl⟩ := each
  exact ⟨raw, bound, _, read, rfl⟩

/-- An operation with a path parameter that ends in a line feed, and a query parameter without it. -/
def trailing : Operation where
  rawPath := "/users/\x7bid\n\x7d"
  httpMethod := "get"
  serviceName := "Users"
  methodName := "get"
  parameters := [⟨"id\n", true, .path, .string⟩, ⟨"id", false, .query, .string⟩]
  body := none
  response := none
  skipped := []

/-- The operation object of this operation. -/
def trailingEntries : Entries := [
  (.text "operationId", .text "Users_get"),
  (.text "parameters", .list [
    .mapping [(.text "name", .text "id\n"), (.text "in", .text "path"), (.text "required", .bool true),
      (.text "schema", .mapping [(.text "type", .text "string")])],
    .mapping [(.text "name", .text "id"), (.text "in", .text "query"),
      (.text "schema", .mapping [(.text "type", .text "string")])]])]

/-- The line feed is lost where the key stands without quotes, and the local for the path parameter is
taken from the key of the query parameter. -/
theorem trailing_destructured :
    extract "/users/\x7bid\n\x7d" "get" trailingEntries [] = .ok trailing ∧
      trailing.pathVariables = [("id\n", "id")] ∧ trailing.pathKey? "id\n" = some "id\n" ∧
      trailing.keyedParameters.map (fun (parameter, key) => (parameter.place, key)) =
        [(.path, "id\n"), (.query, "id")] ∧
      readBindings trailing.method.statements =
        some (configurationBindings ++ [⟨"id", "props", "id"⟩]) ∧
      ¬ ∃ bindings,
        readBindings trailing.method.statements = some (configurationBindings ++ bindings) ∧
          List.Forall₂ (fun bound binding => ∃ key, trailing.pathKey? bound.1 = some key ∧
            binding = ⟨bound.2, "props", key⟩) trailing.pathVariables bindings := by
  have extracted : extract "/users/\x7bid\n\x7d" "get" trailingEntries [] = .ok trailing := by rfl
  have bound : trailing.pathVariables = [("id\n", "id")] := by decide +kernel
  have keyed : trailing.pathKey? "id\n" = some "id\n" := by decide +kernel
  have keys : trailing.keyedParameters.map (fun (parameter, key) => (parameter.place, key)) =
      [(.path, "id\n"), (.query, "id")] := by decide +kernel
  have read : readBindings trailing.method.statements =
      some (configurationBindings ++ [⟨"id", "props", "id"⟩]) := by decide +kernel
  refine ⟨extracted, bound, keyed, keys, read, ?_⟩
  rintro ⟨bindings, readAgain, each⟩
  obtain rfl : bindings = [⟨"id", "props", "id"⟩] :=
    List.append_cancel_left (Option.some.inj (readAgain.symm.trans read))
  rw [bound, List.forall₂_cons] at each
  obtain ⟨⟨key, found, same⟩, _⟩ := each
  rw [keyed] at found
  cases found
  exact absurd same (by decide)

end Operation

end TypedClient
