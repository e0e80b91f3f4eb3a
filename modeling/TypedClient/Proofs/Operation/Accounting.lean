import Mathlib.Data.List.Induction
import Mathlib.Data.List.Nodup
import Mathlib.Data.List.Perm.Subperm
import TypedClient.Client.Compile
import TypedClient.Proofs.Operation.Extract
import TypedClient.Proofs.Operation.Merging

/-!
What becomes of every declared parameter object. Each one is read as a parameter of its own or leaves a
label of its own, unless a later one of the operation takes its position. That one has the same key, and
a name and a place of its own whenever the one that gives way has them; parameter objects that have
neither, such as references, have one key and take each other's position.
-/

namespace TypedClient

namespace Parameter

theorem substitute_cases (parameter : Entries) (merged : List Entries) :
    (∃ before existing after, merged = before ++ existing :: after ∧
        sameKey existing parameter = true ∧
        substitute parameter merged = before ++ parameter :: after) ∨
      substitute parameter merged = merged ++ [parameter] := by
  induction merged with
  | nil => exact .inr rfl
  | cons first rest ih =>
    rw [substitute]
    by_cases equal : sameKey first parameter = true
    · exact .inl ⟨[], first, rest, rfl, equal, by rw [if_pos equal]; rfl⟩
    · rw [if_neg equal]
      rcases ih with ⟨before, existing, after, rfl, same, replaced⟩ | added
      · exact .inl ⟨first :: before, existing, after, rfl, same, by rw [replaced]; rfl⟩
      · exact .inr (by rw [added]; rfl)

/-- These are the parameter objects at some indices of a list. -/
def StandAt (declared : List Entries) (indices : List Nat) (parameters : List Entries) : Prop :=
  indices.map (declared[·]?) = parameters.map some

theorem StandAt.lt (stand : StandAt declared indices parameters) (member : index ∈ indices) :
    index < declared.length := by
  have found : declared[index]? ∈ parameters.map some := stand ▸ List.mem_map_of_mem member
  obtain ⟨parameter, _, same⟩ := List.mem_map.mp found
  exact (List.getElem?_eq_some_iff.mp same.symm).1

theorem StandAt.concat (stand : StandAt declared indices parameters) (last : Entries) :
    StandAt (declared ++ [last]) indices parameters := by
  rw [StandAt, ← stand]
  exact List.map_congr_left fun index member => List.getElem?_append_left (stand.lt member)

/-- What holds of parameter objects one by one holds at their indices. -/
theorem StandAt.forall₂ {relation : Entries → α → Prop} (stand : StandAt declared indices parameters)
    (each : List.Forall₂ relation parameters values) :
    List.Forall₂ (fun index value => ∃ parameter, declared[index]? = some parameter ∧
      relation parameter value) indices values := by
  induction each generalizing indices with
  | nil =>
    obtain rfl := List.map_eq_nil_iff.mp stand
    exact .nil
  | cons first _ ih =>
    obtain ⟨index, rest, rfl, here, others⟩ := List.map_eq_cons_iff.mp stand
    exact .cons ⟨_, here, first⟩ (ih others)

/-- The parameter object at an index has the key of a later one, which is none of the path. -/
def GivesWay (pathCount : Nat) (declared : List Entries) (index : Nat) : Prop :=
  ∃ parameter later successor, declared[index]? = some parameter ∧ index < later ∧
    pathCount ≤ later ∧ declared[later]? = some successor ∧ sameKey parameter successor = true

theorem GivesWay.concat (gives : GivesWay pathCount declared index) (last : Entries) :
    GivesWay pathCount (declared ++ [last]) index := by
  obtain ⟨parameter, later, successor, found, behind, own, foundLater, same⟩ := gives
  have inside := (List.getElem?_eq_some_iff.mp foundLater).1
  refine ⟨parameter, later, successor, ?_, behind, own, ?_, same⟩
  · rwa [List.getElem?_append_left (Nat.lt_trans behind inside)]
  · rwa [List.getElem?_append_left inside]

/-- The indices of the parameter objects that a list of declared ones is merged to, each once; those at
all other indices give way. -/
structure Survivors (pathCount : Nat) (declared merged : List Entries) (indices : List Nat) : Prop where
  distinct : indices.Nodup
  stand : StandAt declared indices merged
  complete : ∀ index < declared.length, index ∈ indices ∨ GivesWay pathCount declared index

theorem survivors_path (paths : List Entries) :
    Survivors paths.length paths paths (List.range paths.length) where
  distinct := List.nodup_range
  stand := by
    apply List.ext_getElem <;> simp
  complete := fun index inside => .inl (List.mem_range.mpr inside)

/-- A further parameter object takes the position of one that gives way, or comes last. -/
theorem Survivors.substitute (survivors : Survivors pathCount declared merged indices)
    (behindPath : pathCount ≤ declared.length) (parameter : Entries) :
    ∃ further, Survivors pathCount (declared ++ [parameter]) (substitute parameter merged) further := by
  obtain ⟨distinct, stand, complete⟩ := survivors
  have fresh : declared.length ∉ indices := fun member => Nat.lt_irrefl _ (stand.lt member)
  have here : (declared ++ [parameter])[declared.length]? = some parameter := by simp
  have standStill := stand.concat parameter
  rcases substitute_cases parameter merged with ⟨before, existing, after, rfl, same, replaced⟩ | added
  · rw [StandAt, List.map_append, List.map_cons, List.map_eq_append_iff] at standStill
    obtain ⟨front, back, rfl, standFront, standBack⟩ := standStill
    obtain ⟨index, back, rfl, standHere, standBack⟩ := List.map_eq_cons_iff.mp standBack
    have gives : GivesWay pathCount (declared ++ [parameter]) index :=
      ⟨existing, declared.length, parameter, standHere, stand.lt (by simp), behindPath, here, same⟩
    refine ⟨front ++ declared.length :: back, ?_, ?_, ?_⟩
    · simp only [List.mem_append, List.mem_cons, not_or] at fresh
      rw [List.nodup_middle] at distinct ⊢
      refine List.nodup_cons.mpr ⟨?_, (List.nodup_cons.mp distinct).2⟩
      simp [fresh.1, fresh.2.2]
    · rw [StandAt, replaced, List.map_append, List.map_append, List.map_cons, List.map_cons, standFront,
        standBack, here]
    · intro other inside
      rcases Nat.lt_succ_iff_lt_or_eq.mp (by simpa using inside) with earlier | rfl
      · rcases complete other earlier with survives | gone
        · by_cases replacedHere : other = index
          · exact .inr (replacedHere ▸ gives)
          · left
            simp only [List.mem_append, List.mem_cons] at survives ⊢
            tauto
        · exact .inr (gone.concat parameter)
      · exact .inl (by simp)
  · refine ⟨indices ++ [declared.length], ?_, ?_, ?_⟩
    · exact List.nodup_append.mpr ⟨distinct, by simp, fun index member last isLast equal =>
        fresh (List.mem_singleton.mp isLast ▸ equal ▸ member)⟩
    · rw [StandAt, added, List.map_append, List.map_append, standStill, List.map_singleton, here]
      rfl
    · intro other inside
      rcases Nat.lt_succ_iff_lt_or_eq.mp (by simpa using inside) with earlier | rfl
      · exact (complete other earlier).imp (List.mem_append_left _) fun gone => gone.concat parameter
      · exact .inl (by simp)

theorem exists_survivors (paths operations : List Entries) :
    ∃ indices, Survivors paths.length (paths ++ operations) (overlay paths operations) indices := by
  induction operations using List.reverseRecOn with
  | nil => exact ⟨_, by simpa [overlay] using survivors_path paths⟩
  | append_singleton operations operation ih =>
    obtain ⟨indices, survivors⟩ := ih
    have step := survivors.substitute (by simp) operation
    rwa [List.append_assoc, ← show overlay paths (operations ++ [operation]) =
      substitute operation (overlay paths operations) by simp [overlay]] at step

/-- Every parameter object that is read gives one parameter or one label. -/
theorem readAll_eq_ok {parameters : List Entries}
    (read : readAll parameters = .ok (found, labels)) :
    ∃ outcomes, List.Forall₂ (fun parameter outcome => Parameter.read parameter = .ok outcome)
        parameters outcomes ∧
      found = outcomes.filterMap Sum.getLeft? ∧ labels = outcomes.filterMap Sum.getRight? := by
  induction parameters generalizing found labels with
  | nil =>
    cases read
    exact ⟨[], .nil, rfl, rfl⟩
  | cons parameter rest ih =>
    simp only [readAll, Outcome.bind_eq_ok, Prod.exists] at read
    obtain ⟨outcome, first, restFound, restLabels, restRead, joined⟩ := read
    obtain ⟨outcomes, each, rfl, rfl⟩ := ih restRead
    refine ⟨outcome :: outcomes, .cons first each, ?_⟩
    cases outcome <;> cases joined <;> exact ⟨rfl, rfl⟩

/-- The parameter object has a name and a place that are not null. -/
def IsIdentified (parameter : Entries) : Prop :=
  Value.same? (Entries.field parameter "name") .null = some false ∧
    Value.same? (Entries.field parameter "in") .null = some false

/-- The parameter object has a field for the name and one for the place. -/
def HasKeyFields (parameter : Entries) : Prop :=
  (Entries.get? parameter "name").isSome = true ∧ (Entries.get? parameter "in").isSome = true

theorem isSome_of_same? {entries other : Entries} {name : String}
    (equal : Value.same? (Entries.field entries name) (Entries.field other name) = some true)
    (notNull : Value.same? (Entries.field entries name) .null = some false) :
    (Entries.get? entries name).isSome = true ∧ (Entries.get? other name).isSome = true := by
  constructor
  · cases found : Entries.get? entries name with
    | some value => rfl
    | none =>
      rw [Entries.field, found] at notNull
      cases notNull
  · cases found : Entries.get? other name with
    | some value => rfl
    | none =>
      rw [show Entries.field other name = .null by rw [Entries.field, found]; rfl, notNull] at equal
      cases equal

theorem hasKeyFields_of_sameKey {parameter successor : Entries}
    (equal : sameKey parameter successor = true) (identified : IsIdentified parameter) :
    HasKeyFields parameter ∧ HasKeyFields successor := by
  obtain ⟨names, places⟩ := sameKey_iff.mp equal
  obtain ⟨name, successorName⟩ := isSome_of_same? names identified.1
  obtain ⟨place, successorPlace⟩ := isSome_of_same? places identified.2
  exact ⟨⟨name, place⟩, successorName, successorPlace⟩

end Parameter

namespace Operation

open Parameter

/-- Every declared parameter object contributes a parameter or a label of its own, or it is overridden
by a later one of the operation. The outcomes are the parameters and labels of the operation, one for
each index. -/
def Accounted (overrides : Entries → Entries → Prop) (onPath own : List Value)
    (operation : Operation) : Prop :=
  ∃ indices outcomes, indices.Nodup ∧
    List.Forall₂ (fun index outcome => ∃ parameter, (objects onPath ++ objects own)[index]? =
      some parameter ∧ Parameter.read parameter = .ok outcome) indices outcomes ∧
    operation.parameters = outcomes.filterMap Sum.getLeft? ∧
    operation.skipped = outcomes.filterMap Sum.getRight? ∧
    ∀ index parameter, (objects onPath ++ objects own)[index]? = some parameter → index ∈ indices ∨
      ∃ later successor, index < later ∧ (objects onPath).length ≤ later ∧
        (objects onPath ++ objects own)[later]? = some successor ∧ overrides parameter successor

theorem length_outcomes (outcomes : List (Parameter ⊕ String)) :
    (outcomes.filterMap Sum.getLeft?).length + (outcomes.filterMap Sum.getRight?).length =
      outcomes.length := by
  induction outcomes with
  | nil => rfl
  | cons outcome rest ih =>
    cases outcome <;> simp only [List.filterMap_cons, Sum.getLeft?_inl, Sum.getRight?_inl,
      Sum.getLeft?_inr, Sum.getRight?_inr, List.length_cons] <;> omega

/-- The labels of an operation that is declared come in warnings, in order. -/
theorem warnings_of_declare {path httpMethod : String} {onPath : List Value} {entries : Entries}
    {declared : Client.Declared} (read : Client.declare path onPath httpMethod entries = .ok declared) :
    extract path httpMethod entries onPath = .ok declared.operation ∧
      ∃ before after, declared.warnings = before ++ declared.operation.skipped.map
        (Warning.ignoredParameter · (Text.upper httpMethod ++ " " ++ path)) ++ after := by
  simp only [Client.declare, Outcome.bind_eq_ok, Outcome.pure_eq_ok] at read
  obtain ⟨_, _, operation, extracted, rfl⟩ := read
  exact ⟨extracted, _, _, rfl⟩

/-- No parameter object disappears silently, except that those without a name or a place give way to a
later one of the operation that has an equal key, where a missing field counts as null. Each label of an
operation that is declared comes in a warning of its own. -/
theorem extract_accounted {rawPath httpMethod : String} {entries : Entries} {onPath : List Value}
    {operation : Operation} (read : extract rawPath httpMethod entries onPath = .ok operation) :
    Accounted (fun parameter successor => sameKey parameter successor = true ∧
        (IsIdentified parameter → HasKeyFields parameter ∧ HasKeyFields successor))
      onPath (fieldItems entries "parameters") operation ∧
    ∀ declared, Client.declare rawPath onPath httpMethod entries = .ok declared →
      ∃ before after, declared.warnings = before ++ operation.skipped.map
        (Warning.ignoredParameter · (Text.upper httpMethod ++ " " ++ rawPath)) ++ after := by
  constructor
  · obtain ⟨merged, parameters, skipped, body, response, isMerged, readEach, _, _, rfl⟩ :=
      extract_eq_ok.mp read
    obtain rfl := eq_overlay_of_merge isMerged
    obtain ⟨outcomes, each, rfl, rfl⟩ := readAll_eq_ok readEach
    obtain ⟨indices, survivors⟩ :=
      exists_survivors (objects onPath) (objects (fieldItems entries "parameters"))
    refine ⟨indices, outcomes, survivors.distinct, ?_, rfl, rfl, ?_⟩
    · exact survivors.stand.forall₂ each
    · intro index parameter found
      refine (survivors.complete index (List.getElem?_eq_some_iff.mp found).1).imp_right ?_
      rintro ⟨_, later, successor, here, behind, own, foundLater, same⟩
      obtain rfl := Option.some.inj (found.symm.trans here)
      exact ⟨later, successor, behind, own, foundLater, same, hasKeyFields_of_sameKey same⟩
  · intro declared read'
    obtain ⟨again, warned⟩ := warnings_of_declare read'
    obtain rfl := Except.ok.inj (read.symm.trans again)
    exact warned

/-- A parameter object with a name and a place. -/
def placed (name place : String) : Value :=
  .mapping [(.text "name", .text name), (.text "in", .text place)]

/-- Parameters of a path, one of them in a header. -/
def pagesOnPath : List Value :=
  [placed "page" "query", placed "trace" "header"]

/-- An operation with the first of them again, and one in a cookie. -/
def pagesEntries : Entries :=
  [(.text "operationId", .text "Pages_list"),
    (.text "parameters", .list [placed "page" "query", .null, placed "session" "cookie"])]

def pagesOperation : Operation where
  rawPath := "/pages"
  httpMethod := "get"
  serviceName := "Pages"
  methodName := "list"
  parameters := [⟨"page", false, .query, .string⟩]
  body := none
  response := none
  skipped := ["trace (in: header)", "session (in: cookie)"]

theorem extract_accounted_pages :
    extract "/pages" "get" pagesEntries pagesOnPath = .ok pagesOperation ∧
      Accounted (fun parameter successor => sameKey parameter successor = true ∧
          (IsIdentified parameter → HasKeyFields parameter ∧ HasKeyFields successor))
        pagesOnPath (fieldItems pagesEntries "parameters") pagesOperation ∧
      ∃ declared before after, Client.declare "/pages" pagesOnPath "get" pagesEntries = .ok declared ∧
        declared.warnings = before ++ [.ignoredParameter "trace (in: header)" "GET /pages",
          .ignoredParameter "session (in: cookie)" "GET /pages"] ++ after := by
  have read : extract "/pages" "get" pagesEntries pagesOnPath = .ok pagesOperation := by rfl
  have declared : (Client.declare "/pages" pagesOnPath "get" pagesEntries).toOption.isSome = true := by
    rfl
  obtain ⟨accounted, warned⟩ := extract_accounted read
  cases result : Client.declare "/pages" pagesOnPath "get" pagesEntries with
  | error cause =>
    rw [result] at declared
    cases declared
  | ok found =>
    obtain ⟨before, after, warnings⟩ := warned found result
    have labels : Text.upper "get" ++ " " ++ "/pages" = "GET /pages" := by rfl
    rw [labels] at warnings
    exact ⟨read, accounted, found, before, after, rfl, warnings⟩

/-- A reference to a parameter of the components. -/
def reference (name : String) : Value :=
  .mapping [(.text "$ref", .text ("#/components/parameters/" ++ name))]

/-- An operation with two of them. -/
def referencesEntries : Entries :=
  [(.text "operationId", .text "Things_get"),
    (.text "parameters", .list [reference "Limit", reference "Offset"])]

/-- The operation that is read from it, with the label of one of them only. -/
def referencesOperation : Operation where
  rawPath := "/things"
  httpMethod := "get"
  serviceName := "Things"
  methodName := "get"
  parameters := []
  body := none
  response := none
  skipped := [" (in: None)"]

theorem reference_unaccounted :
    extract "/things" "get" referencesEntries [] = .ok referencesOperation ∧
      ¬ Accounted (fun parameter successor => sameKey parameter successor = true ∧
          HasKeyFields parameter ∧ HasKeyFields successor)
        [] (fieldItems referencesEntries "parameters") referencesOperation := by
  refine ⟨by rfl, ?_⟩
  rintro ⟨indices, outcomes, distinct, each, found, labels, complete⟩
  have fieldless (name : String) : ¬ HasKeyFields [(.text "$ref", .text name)] := by
    rintro ⟨inName, _⟩
    cases inName
  have survive (index : Nat) (parameter : Entries)
      (here : (objects (fieldItems referencesEntries "parameters"))[index]? = some parameter)
      (without : ¬ HasKeyFields parameter) : index ∈ indices := by
    rcases complete index parameter here with survives | ⟨_, _, _, _, _, _, fields, _⟩
    · exact survives
    · exact absurd fields without
  have both : [0, 1] ⊆ indices := by
    simp only [List.cons_subset, List.nil_subset, and_true]
    exact ⟨survive 0 _ (by rfl) (fieldless _), survive 1 _ (by rfl) (fieldless _)⟩
  have many : 2 ≤ indices.length := (List.Nodup.subperm (by decide) both).length_le
  have few := length_outcomes outcomes
  rw [← found, ← labels, ← each.length_eq] at few
  have one : referencesOperation.parameters.length + referencesOperation.skipped.length = 1 := rfl
  omega

end Operation

end TypedClient
