import TypedClient.Method.Build
import TypedClient.Proofs.Method.Locals
import TypedClient.Proofs.Source.Script

namespace TypedClient

namespace Script

variable {key name : String} {rest : List Char}

/-- What may follow a member of a destructuring. -/
def Ends (rest : List Char) : Prop :=
  ∃ c more, rest = c :: more ∧ (c = ',' ∨ c = ' ')

theorem readVariable_ends (isVariable : Identifier.IsVariable name) (ends : Ends rest) :
    readVariable (name.toList ++ rest) = some (name, rest) := by
  obtain ⟨c, more, rfl, separator⟩ := ends
  apply readVariable_append isVariable
  rcases separator with rfl | rfl <;> decide

theorem dropPrefix?_colon_ends (ends : Ends rest) : rest.dropPrefix? ": ".toList = none := by
  obtain ⟨c, more, rfl, separator⟩ := ends
  rcases separator with rfl | rfl <;> rfl

theorem readMember_bare (identifier : Identifier.isIdentifier key.toList = true)
    (isVariable : Identifier.IsVariable name) (ends : Ends rest) :
    readMember (key.toList ++ (": ".toList ++ (name.toList ++ rest))) = some ((key, name), rest) := by
  obtain ⟨c, more, spelled, start⟩ := Identifier.exists_cons_of_isIdentifier identifier
  have word : readWord (key.toList ++ (": ".toList ++ (name.toList ++ rest))) =
      some (key, ": ".toList ++ (name.toList ++ rest)) := readWord_append identifier (by decide) _
  rw [readMember.eq_def]
  split
  · rename_i quoted
    rw [spelled] at quoted
    cases quoted
    cases start
  · rw [word]
    simp only [Option.bind_eq_bind, Option.bind_some, Text.dropPrefix?_append_self,
      readVariable_ends isVariable ends]
    rfl

theorem readMember_quoted (raw : ∀ c ∈ key.toList, standsRaw c = true)
    (isVariable : Identifier.IsVariable name) (ends : Ends rest) :
    readMember ((Literal.string key).toList ++ (": ".toList ++ (name.toList ++ rest))) =
      some ((key, name), rest) := by
  rw [Literal.toList_string, List.cons_append, List.cons_append, List.append_assoc,
    List.singleton_append, readMember, Literal.readString_flatMap _ _ raw]
  simp only [Option.bind_eq_bind, Option.bind_some, Text.dropPrefix?_append_self,
    readVariable_ends isVariable ends, String.ofList_toList]
  rfl

theorem readMember_alone (isVariable : Identifier.IsVariable name) (ends : Ends rest) :
    readMember (name.toList ++ rest) = some ((name, name), rest) := by
  obtain ⟨c, more, spelled, start⟩ := Identifier.exists_cons_of_isIdentifier isVariable.1
  have word : readWord (name.toList ++ rest) = some (name, rest) := by
    obtain ⟨separator, behind, rfl, which⟩ := ends
    apply readWord_append isVariable.1
    rcases which with rfl | rfl <;> decide
  rw [readMember.eq_def]
  split
  · rename_i quoted
    rw [spelled] at quoted
    cases quoted
    cases start
  · rw [word]
    simp only [Option.bind_eq_bind, Option.bind_some, dropPrefix?_colon_ends ends,
      readVariable_ends isVariable ends]
    rfl

end Script

namespace PathLocal

open Script

/-- The local can name a variable, and its key can be written in a string literal. -/
structure Readable (pathLocal : PathLocal) : Prop where
  isVariable : Identifier.IsVariable pathLocal.localName
  raw : ∀ c ∈ pathLocal.key.toList, standsRaw c = true

theorem readMember_binding {pathLocal : PathLocal} (readable : pathLocal.Readable)
    (ends : Ends rest) :
    readMember (pathLocal.binding.toList ++ rest) =
      some ((pathLocal.key, pathLocal.localName), rest) := by
  unfold binding
  split
  · rename_i same
    rw [same]
    exact readMember_alone readable.isVariable ends
  · rw [String.toList_append, String.toList_append, List.append_assoc, List.append_assoc]
    unfold Literal.propertyKey
    split
    · rename_i bare
      exact readMember_bare (isIdentifier_of_isBareKey bare readable.raw) readable.isVariable ends
    · exact readMember_quoted readable.raw readable.isVariable ends

theorem readMembers_bindings {locals : List PathLocal} (nonempty : locals ≠ [])
    (readable : ∀ pathLocal ∈ locals, pathLocal.Readable) (rest : List Char)
    (enough : locals.length ≤ fuel) :
    readMembers fuel ((Text.commaSeparated (locals.map (·.binding))).toList ++ ' ' :: rest) =
      some (locals.map fun pathLocal => (pathLocal.key, pathLocal.localName), ' ' :: rest) := by
  induction locals generalizing fuel with
  | nil => exact False.elim (nonempty rfl)
  | cons pathLocal locals ih =>
    obtain ⟨fuel, rfl⟩ := Nat.exists_eq_succ_of_ne_zero (Nat.ne_zero_of_lt enough)
    have firstReadable := readable pathLocal List.mem_cons_self
    cases locals with
    | nil =>
      have read := readMember_binding firstReadable ⟨' ', rest, rfl, .inr rfl⟩
      simp [readMembers, Text.commaSeparated, read]
    | cons next locals =>
      have restReadable : ∀ other ∈ next :: locals, other.Readable :=
        fun other member => readable other (List.mem_cons_of_mem pathLocal member)
      have separated : (Text.commaSeparated ((pathLocal :: next :: locals).map (·.binding))).toList ++
          ' ' :: rest = pathLocal.binding.toList ++ ',' :: ' ' ::
            ((Text.commaSeparated ((next :: locals).map (·.binding))).toList ++ ' ' :: rest) := by
        simp [Text.commaSeparated, String.intercalate_cons_cons]
      have read := readMember_binding firstReadable ⟨',', ' ' ::
        ((Text.commaSeparated ((next :: locals).map (·.binding))).toList ++ ' ' :: rest), rfl, .inl rfl⟩
      have restEnough : (next :: locals).length ≤ fuel := Nat.le_of_succ_le_succ enough
      have readRest := ih (List.cons_ne_nil next locals) restReadable restEnough
      rw [separated, readMembers]
      simp only [read, readRest, Option.bind_eq_bind, Option.bind_some]
      rfl

/-- The statement that takes the locals from an object binds each of them to its key. -/
theorem readDestructure_bindings {locals : List PathLocal} (nonempty : locals ≠ [])
    (readable : ∀ pathLocal ∈ locals, pathLocal.Readable)
    (targetPart : target.toList.all isTarget = true) :
    readDestructure (Expression.destructure target (locals.map (·.binding))) =
      some (locals.map fun pathLocal => ⟨pathLocal.localName, target, pathLocal.key⟩) := by
  have whole : (Expression.destructure target (locals.map (·.binding))).toList =
      "const \x7b ".toList ++ ((Text.commaSeparated (locals.map (·.binding))).toList ++
        ' ' :: ("\x7d = ".toList ++ (target.toList ++ [';']))) := by
    simp [Expression.destructure]
  have enough := Text.length_le_commaSeparated (locals.map (·.binding))
  have closed (chars : List Char) : (' ' :: ("\x7d = ".toList ++ chars)).dropPrefix? " \x7d = ".toList =
      some chars := Text.dropPrefix?_append_self " \x7d = ".toList chars
  have stops : [';'].takeWhile isTarget = [] ∧ [';'].dropWhile isTarget = [';'] := by decide
  have fits : locals.length ≤ ((Text.commaSeparated (locals.map (·.binding))).toList ++
      ' ' :: ("\x7d = ".toList ++ (target.toList ++ [';']))).length := by
    simp only [List.length_map, List.length_append, List.length_cons] at enough ⊢
    omega
  have read := readMembers_bindings nonempty readable ("\x7d = ".toList ++ (target.toList ++ [';'])) fits
  rw [readDestructure, whole, Text.dropPrefix?_append_self]
  simp only [Option.bind_eq_bind, Option.bind_some, read, closed]
  rw [List.takeWhile_append_of_pos (List.all_eq_true.mp targetPart),
    List.dropWhile_append_of_pos (List.all_eq_true.mp targetPart), stops.1, stops.2]
  simp [List.map_map]

end PathLocal

namespace Operation

open Script

theorem raw_key {operation : Operation}
    (raw : ∀ parameter ∈ operation.parameters, ∀ c ∈ parameter.name.toList, standsRaw c = true)
    (keyed : (parameter, key) ∈ operation.keyedParameters) : ∀ c ∈ key.toList, standsRaw c = true := by
  intro c inside
  rcases mem_key keyed inside with ⟨named, present, inName⟩ | part
  · exact raw named present c inName
  · exact standsRaw_of_isPart part

theorem readable_of_raw {operation : Operation}
    (raw : ∀ parameter ∈ operation.parameters, ∀ c ∈ parameter.name.toList, standsRaw c = true)
    (member : pathLocal ∈ operation.pathLocals) : pathLocal.Readable := by
  obtain ⟨⟨parameter, keyed⟩, isVariable⟩ := PathLocal.mem_bindAll member
  exact ⟨isVariable, raw_key raw keyed⟩

/-- The variables of a method with the members they are bound to. -/
def scope (operation : Operation) : List Binding :=
  let configuration := "this." ++ configurationMember
  [⟨"baseUrl", configuration, "baseUrl"⟩, ⟨"adapter", configuration, "adapter"⟩] ++
    operation.pathLocals.map fun pathLocal => ⟨pathLocal.localName, inputArgument, pathLocal.key⟩

/-- The call of the adapter that a method returns. -/
def answer (operation : Operation) : String :=
  "return " ++ Expression.call "adapter" operation.responseText [operation.requestText] ++ ";"

/-- The statements of a method are read as the bindings of its scope and the call of the adapter. -/
theorem readStatements_statements {operation : Operation}
    (readable : ∀ pathLocal ∈ operation.pathLocals, pathLocal.Readable) :
    readStatements operation.statements = some (operation.scope, operation.answer) := by
  have configuration : readDestructure (Expression.destructure ("this." ++ configurationMember)
      ["baseUrl", "adapter"]) = some [⟨"baseUrl", "this." ++ configurationMember, "baseUrl"⟩,
        ⟨"adapter", "this." ++ configurationMember, "adapter"⟩] := by
    decide +kernel
  rw [statements, scope]
  cases found : operation.pathLocals with
  | nil =>
    simp [readStatements, configuration, answer]
  | cons pathLocal locals =>
    have inputs : readDestructure (Expression.destructure inputArgument _) = _ :=
      PathLocal.readDestructure_bindings (List.cons_ne_nil pathLocal locals) (found ▸ readable)
        (by decide)
    rw [List.map_cons, List.map_cons] at inputs
    simp [readStatements, configuration, inputs, answer]

/-- No variable of a method is declared twice, and none has the name of its argument. -/
theorem nodup_scope (operation : Operation) :
    (inputArgument :: operation.scope.map (·.localName)).Nodup := by
  have reservedDistinct : PathLocal.reserved.Nodup := by decide
  have distinct : (["baseUrl", "adapter"] ++
      inputArgument :: operation.pathLocals.map (·.localName)).Nodup :=
    PathLocal.nodup_bindAll reservedDistinct [] operation.keyedParameters
  rw [scope, List.map_append, List.map_map]
  exact List.nodup_middle.mp distinct

end Operation

end TypedClient
