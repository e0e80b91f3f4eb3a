import Mathlib.Data.List.Find
import Mathlib.Data.List.Forall2
import TypedClient.Operation.Parameters
import TypedClient.Proofs.Outcome
import TypedClient.Proofs.Value.Equality

namespace TypedClient.Parameter

/-! ### Keys -/

/-- The name and the place are values that a document can hold. -/
def HasProperKey (parameter : Entries) : Prop :=
  (Entries.field parameter "name").IsProper ∧ (Entries.field parameter "in").IsProper

/-- Comparing the keys of two parameter objects shows that they are equal. -/
def sameKey (a b : Entries) : Bool :=
  sameKey? a b == some true

theorem sameKey_iff {a b : Entries} : sameKey a b = true ↔
    Value.same? (Entries.field a "name") (Entries.field b "name") = some true ∧
      Value.same? (Entries.field a "in") (Entries.field b "in") = some true := by
  rw [sameKey, beq_iff_eq, sameKey?]
  simp only [Option.bind_eq_bind, Option.bind_eq_some_iff]
  constructor
  · rintro ⟨_ | _, names, places⟩
    · cases places
    · exact ⟨names, places⟩
  · rintro ⟨names, places⟩
    exact ⟨true, names, places⟩

theorem sameKey_refl {parameter : Entries} (proper : HasProperKey parameter) :
    sameKey parameter parameter = true :=
  sameKey_iff.mpr ⟨Value.same?_refl proper.1, Value.same?_refl proper.2⟩

theorem sameKey_symm {a b : Entries} (first : HasProperKey a) (second : HasProperKey b)
    (equal : sameKey a b = true) : sameKey b a = true := by
  obtain ⟨names, places⟩ := sameKey_iff.mp equal
  exact sameKey_iff.mpr
    ⟨Value.same?_symm first.1 second.1 names, Value.same?_symm first.2 second.2 places⟩

theorem sameKey_trans {a b c : Entries} (first : HasProperKey a) (second : HasProperKey b)
    (third : HasProperKey c) (equal : sameKey a b = true) (further : sameKey b c = true) :
    sameKey a c = true := by
  obtain ⟨names, places⟩ := sameKey_iff.mp equal
  obtain ⟨namesAgain, placesAgain⟩ := sameKey_iff.mp further
  exact sameKey_iff.mpr ⟨Value.same?_trans first.1 second.1 third.1 names namesAgain,
    Value.same?_trans first.2 second.2 third.2 places placesAgain⟩

/-- Parameter objects with one key have the same key as any other. -/
theorem sameKey_congr {a b c : Entries} (first : HasProperKey a) (second : HasProperKey b)
    (third : HasProperKey c) (equal : sameKey a b = true) : sameKey a c = sameKey b c := by
  apply Bool.eq_iff_iff.mpr
  constructor
  · exact sameKey_trans second first third (sameKey_symm first second equal)
  · exact sameKey_trans first second third equal

/-! ### Merging position by position -/

/-- The last of some parameter objects with the key of one, or else this one itself. -/
def successor (parameter : Entries) (operations : List Entries) : Entries :=
  (operations.reverse.find? (sameKey parameter)).getD parameter

/-- The parameter objects with another key. -/
def others (parameter : Entries) (operations : List Entries) : List Entries :=
  operations.filter fun other => !sameKey parameter other

/-- Parameter objects of a path and of an operation, and what they are merged to. -/
inductive Merged : List Entries → List Entries → List Entries → Prop where
  | nil : Merged [] [] []
  | path (rest : Merged paths (others path operations) merged) :
      Merged (path :: paths) operations (successor path operations :: merged)
  | operation (rest : Merged [] (others operation operations) merged) :
      Merged [] (operation :: operations) (successor operation operations :: merged)

/-- A parameter object in the position of the first one with its key, or else at the end. -/
def substitute (parameter : Entries) : List Entries → List Entries
  | [] => [parameter]
  | existing :: rest =>
    if sameKey existing parameter then parameter :: rest else existing :: substitute parameter rest

/-- The merged parameter objects after those of the operation are taken one after another. -/
def overlay (paths operations : List Entries) : List Entries :=
  operations.foldl (fun merged parameter => substitute parameter merged) paths

/-- Superseding gives no result only when two keys are compared without end. -/
theorem supersede_cases (parameter : Entries) (merged : List Entries) :
    supersede parameter merged = .ok (substitute parameter merged) ∨
      supersede parameter merged = .error .endless ∧
        ∃ existing ∈ merged, sameKey? existing parameter = none := by
  induction merged with
  | nil => exact .inl rfl
  | cons existing rest ih =>
    rw [supersede, substitute, sameKey]
    cases compared : sameKey? existing parameter with
    | none => exact .inr ⟨rfl, existing, List.mem_cons_self, compared⟩
    | some equal =>
      cases equal with
      | true => exact .inl rfl
      | false =>
        rcases ih with further | ⟨failed, other, member, never⟩
        · exact .inl (by simp only [further]; rfl)
        · exact .inr ⟨by simp only [failed]; rfl, other, List.mem_cons_of_mem _ member, never⟩

theorem successor_cons (parameter operation : Entries) (operations : List Entries) :
    successor parameter (operation :: operations) =
      if sameKey parameter operation then
        (operations.reverse.find? (sameKey parameter)).getD operation
      else successor parameter operations := by
  rw [successor, successor, List.reverse_cons, List.find?_append, List.find?_singleton]
  cases operations.reverse.find? (sameKey parameter) <;> split <;> simp

section

variable {paths operations : List Entries}
variable (operationsProper : ∀ operation ∈ operations, HasProperKey operation)

include operationsProper in
theorem overlay_cons {path : Entries} (pathProper : HasProperKey path) (paths : List Entries) :
    overlay (path :: paths) operations =
      successor path operations :: overlay paths (others path operations) := by
  induction operations generalizing path paths with
  | nil => rfl
  | cons operation operations ih =>
    obtain ⟨proper, restProper⟩ := List.forall_mem_cons.mp operationsProper
    rw [overlay, List.foldl_cons, substitute, successor_cons, others, List.filter_cons]
    by_cases equal : sameKey path operation = true
    · -- From now on the operation's own object stands there, and it has the same key.
      have congr {other : Entries} (member : other ∈ operations) :
          sameKey operation other = sameKey path other :=
        (sameKey_congr pathProper proper (restProper other member) equal).symm
      have sameLast : successor operation operations =
          (operations.reverse.find? (sameKey path)).getD operation := by
        rw [successor, List.find?_congr fun other member => congr (List.mem_reverse.mp member)]
      have sameOthers : others operation operations =
          operations.filter fun other => !sameKey path other :=
        List.filter_congr fun other member => by rw [congr member]
      have step := ih restProper proper paths
      rw [sameLast, sameOthers] at step
      simpa [equal, overlay] using step
    · have step := ih restProper pathProper (substitute operation paths)
      simpa [equal, overlay, others] using step

include operationsProper in
theorem others_proper (path : Entries) : ∀ other ∈ others path operations, HasProperKey other :=
  fun other member => operationsProper other (List.mem_filter.mp member).1

include operationsProper in
/-- Taking the parameter objects of the operation one after another gives the merged ones. -/
theorem merged_overlay (pathsProper : ∀ path ∈ paths, HasProperKey path) :
    Merged paths operations (overlay paths operations) := by
  induction paths generalizing operations with
  | cons path paths ih =>
    obtain ⟨pathProper, restProper⟩ := List.forall_mem_cons.mp pathsProper
    rw [overlay_cons operationsProper pathProper]
    exact .path (ih (others_proper operationsProper path) restProper)
  | nil =>
    -- Every object that comes first takes all with its key out of those that are left.
    induction found : operations.length using Nat.strongRecOn generalizing operations with
    | ind length ih =>
      cases operations with
      | nil => exact .nil
      | cons operation operations =>
        obtain ⟨proper, restProper⟩ := List.forall_mem_cons.mp operationsProper
        have first : overlay [] (operation :: operations) = overlay [operation] operations := rfl
        have shorter : (others operation operations).length < length := by
          rw [← found, List.length_cons]
          exact Nat.lt_succ_of_le (List.length_filter_le _ _)
        rw [first, overlay_cons restProper proper]
        exact .operation (ih _ shorter (others_proper restProper operation) rfl)

end

/-! ### What stands at a position -/

/-- The last parameter object of the operation with a key, or else the first one of the path. -/
def latest? (paths operations : List Entries) (parameter : Entries) : Option Entries :=
  (operations.reverse.find? (sameKey parameter)).or (paths.find? (sameKey parameter))

theorem successor_cases (parameter : Entries) (operations : List Entries) :
    (∃ operation ∈ operations, sameKey parameter operation = true ∧
        successor parameter operations = operation) ∨
      (∀ operation ∈ operations, sameKey parameter operation = false) ∧
        successor parameter operations = parameter := by
  cases found : operations.reverse.find? (sameKey parameter) with
  | some operation =>
    have member := List.mem_reverse.mp (List.mem_of_find?_eq_some found)
    exact .inl ⟨operation, member, List.find?_some found, by rw [successor, found]; rfl⟩
  | none =>
    refine .inr ⟨fun operation member => ?_, by rw [successor, found]; rfl⟩
    have different := List.find?_eq_none.mp found operation (List.mem_reverse.mpr member)
    exact Bool.eq_false_iff.mpr different

section

variable {paths operations merged : List Entries}

theorem Merged.mem (made : Merged paths operations merged) (member : parameter ∈ merged) :
    parameter ∈ paths ∨ parameter ∈ operations := by
  induction made with
  | nil => cases member
  | @path paths path operations merged rest ih =>
    rcases List.mem_cons.mp member with rfl | later
    · rcases successor_cases path operations with ⟨operation, present, _, same⟩ | ⟨_, same⟩
      · exact .inr (same ▸ present)
      · exact .inl (by rw [same]; exact List.mem_cons_self)
    · exact (ih later).imp (List.mem_cons_of_mem path) fun inOthers => (List.mem_filter.mp inOthers).1
  | @operation operation operations merged rest ih =>
    rcases List.mem_cons.mp member with rfl | later
    · right
      rcases successor_cases operation operations with ⟨other, present, _, same⟩ | ⟨_, same⟩
      · exact same ▸ List.mem_cons_of_mem operation present
      · rw [same]
        exact List.mem_cons_self
    · refine (ih later).imp id fun inOthers => ?_
      exact List.mem_cons_of_mem operation (List.mem_filter.mp inOthers).1

variable (pathsProper : ∀ path ∈ paths, HasProperKey path)
variable (operationsProper : ∀ operation ∈ operations, HasProperKey operation)

include pathsProper operationsProper in
theorem Merged.proper (made : Merged paths operations merged) :
    ∀ parameter ∈ merged, HasProperKey parameter := by
  intro parameter member
  rcases made.mem member with inPaths | inOperations
  · exact pathsProper parameter inPaths
  · exact operationsProper parameter inOperations

include operationsProper in
theorem sameKey_successor {parameter : Entries} (proper : HasProperKey parameter) :
    HasProperKey (successor parameter operations) ∧
      sameKey parameter (successor parameter operations) = true := by
  rcases successor_cases parameter operations with ⟨operation, present, equal, same⟩ | ⟨_, same⟩
  · exact same ▸ ⟨operationsProper operation present, equal⟩
  · rw [same]
    exact ⟨proper, sameKey_refl proper⟩

end

/-- Of the parameter objects with one key only the first one. -/
def firsts (parameters : List Entries) : List Entries :=
  parameters.eraseDupsBy fun later earlier => sameKey earlier later

/-- The parameter objects of an operation that come behind those of its path: the first ones with keys
that the path does not have. -/
def added (paths operations : List Entries) : List Entries :=
  firsts (operations.filter fun operation => paths.all fun path => !sameKey path operation)

theorem firsts_cons (parameter : Entries) (parameters : List Entries) :
    firsts (parameter :: parameters) = parameter :: firsts (others parameter parameters) :=
  @List.eraseDups_cons Entries ⟨fun later earlier => sameKey earlier later⟩ parameter parameters

theorem added_cons (path : Entries) (paths operations : List Entries) :
    added (path :: paths) operations = added paths (others path operations) := by
  rw [added, added, others, List.filter_filter]
  simp only [List.all_cons, Bool.and_comm]

theorem added_nil (operations : List Entries) : added [] operations = firsts operations := by
  simp [added]

section

variable {paths operations merged : List Entries}
variable (pathsProper : ∀ path ∈ paths, HasProperKey path)
variable (operationsProper : ∀ operation ∈ operations, HasProperKey operation)

include operationsProper in
/-- Looking for a key does not come upon parameter objects with another one. -/
theorem find?_others {path parameter : Entries} (pathProper : HasProperKey path)
    (proper : HasProperKey parameter) (apart : sameKey path parameter = false) :
    (others path operations).reverse.find? (sameKey parameter) =
      operations.reverse.find? (sameKey parameter) := by
  rw [others, ← List.filter_reverse, List.find?_filter]
  refine List.find?_congr fun operation member => ?_
  have operationProper := operationsProper operation (List.mem_reverse.mp member)
  cases equal : sameKey parameter operation with
  | true =>
    have different : sameKey path operation = false := by
      apply Bool.eq_false_iff.mpr
      intro same
      exact Bool.eq_false_iff.mp apart (sameKey_trans pathProper operationProper proper same
        (sameKey_symm proper operationProper equal))
    simp [different]
  | false => simp

include operationsProper in
/-- The last parameter object with the key of the one that takes a position is this one. -/
theorem find?_successor {path : Entries} (pathProper : HasProperKey path) :
    (operations.reverse.find? (sameKey (successor path operations))).or (some path) =
      some (successor path operations) := by
  obtain ⟨proper, equal⟩ := sameKey_successor operationsProper pathProper
  have sameSearch : operations.reverse.find? (sameKey (successor path operations)) =
      operations.reverse.find? (sameKey path) :=
    List.find?_congr fun operation member => (sameKey_congr pathProper proper
      (operationsProper operation (List.mem_reverse.mp member)) equal).symm
  rw [sameSearch]
  conv_rhs => rw [successor]
  cases operations.reverse.find? (sameKey path) <;> rfl

include pathsProper operationsProper

/-- The keys of the path stand in order, and behind them the new ones of the operation. -/
theorem Merged.keys (made : Merged paths operations merged) :
    List.Forall₂ (fun parameter key => sameKey parameter key = true) merged
      (paths ++ added paths operations) := by
  induction made with
  | nil => exact .nil
  | @path paths path operations merged rest ih =>
    obtain ⟨proper, restProper⟩ := List.forall_mem_cons.mp pathsProper
    obtain ⟨successorProper, equal⟩ := sameKey_successor operationsProper proper
    rw [added_cons]
    exact .cons (sameKey_symm proper successorProper equal)
      (ih restProper (others_proper operationsProper path))
  | @operation operation operations merged rest ih =>
    obtain ⟨proper, restProper⟩ := List.forall_mem_cons.mp operationsProper
    obtain ⟨successorProper, equal⟩ := sameKey_successor restProper proper
    rw [added_nil, firsts_cons, ← added_nil]
    exact .cons (sameKey_symm proper successorProper equal)
      (ih pathsProper (others_proper restProper operation))

/-- At the first position with a key stands the last parameter object of the operation with it, or else
the first one of the path. -/
theorem Merged.latest (made : Merged paths operations merged)
    (split : merged = before ++ parameter :: after)
    (first : ∀ earlier ∈ before, sameKey earlier parameter = false) :
    latest? paths operations parameter = some parameter := by
  induction made generalizing before with
  | nil => cases before <;> cases split
  | @path paths path operations merged rest ih =>
    obtain ⟨proper, restProper⟩ := List.forall_mem_cons.mp pathsProper
    obtain ⟨successorProper, equal⟩ := sameKey_successor operationsProper proper
    cases before with
    | nil =>
      obtain ⟨rfl, rfl⟩ := List.cons.inj split
      rw [latest?, List.find?_cons_of_pos (sameKey_symm proper successorProper equal)]
      exact find?_successor operationsProper proper
    | cons earlier before =>
      obtain ⟨rfl, restSplit⟩ := List.cons.inj split
      obtain ⟨apart, first⟩ := List.forall_mem_cons.mp first
      have parameterProper := rest.proper restProper (others_proper operationsProper path) parameter
        (by simp [restSplit])
      have pathApart : sameKey path parameter = false :=
        (sameKey_congr proper successorProper parameterProper equal).trans apart
      have notPath : ¬sameKey parameter path = true := fun same =>
        Bool.eq_false_iff.mp pathApart (sameKey_symm parameterProper proper same)
      rw [latest?, List.find?_cons_of_neg notPath,
        ← find?_others operationsProper proper parameterProper pathApart]
      exact ih restProper (others_proper operationsProper path) restSplit first
  | @operation operation operations merged rest ih =>
    obtain ⟨proper, restProper⟩ := List.forall_mem_cons.mp operationsProper
    obtain ⟨successorProper, equal⟩ := sameKey_successor restProper proper
    cases before with
    | nil =>
      obtain ⟨rfl, rfl⟩ := List.cons.inj split
      rw [latest?, List.reverse_cons, List.find?_append,
        List.find?_cons_of_pos (sameKey_symm proper successorProper equal), find?_successor restProper proper]
      rfl
    | cons earlier before =>
      obtain ⟨rfl, restSplit⟩ := List.cons.inj split
      obtain ⟨apart, first⟩ := List.forall_mem_cons.mp first
      have parameterProper := rest.proper pathsProper (others_proper restProper operation) parameter
        (by simp [restSplit])
      have operationApart : sameKey operation parameter = false :=
        (sameKey_congr proper successorProper parameterProper equal).trans apart
      have notOperation : ¬sameKey parameter operation = true := fun same =>
        Bool.eq_false_iff.mp operationApart (sameKey_symm parameterProper proper same)
      rw [latest?, List.reverse_cons, List.find?_append, List.find?_cons_of_neg notOperation,
        ← find?_others restProper proper parameterProper operationApart, List.find?_nil, Option.or_none]
      exact ih pathsProper (others_proper restProper operation) restSplit first

/-- A parameter object whose key no operation has stands where it stands in the path. -/
theorem Merged.kept (made : Merged paths operations merged)
    (split : merged = before ++ parameter :: after)
    (unmatched : ∀ operation ∈ operations, sameKey parameter operation = false) :
    paths[before.length]? = some parameter := by
  induction made generalizing before with
  | nil => cases before <;> cases split
  | @path paths path operations merged rest ih =>
    obtain ⟨proper, restProper⟩ := List.forall_mem_cons.mp pathsProper
    cases before with
    | nil =>
      obtain ⟨rfl, rfl⟩ := List.cons.inj split
      rcases successor_cases path operations with ⟨operation, present, _, same⟩ | ⟨_, same⟩
      · rw [same] at unmatched
        exact absurd (sameKey_refl (operationsProper operation present))
          (Bool.eq_false_iff.mp (unmatched operation present))
      · simp [same]
    | cons earlier before =>
      exact ih restProper (others_proper operationsProper path) (List.cons.inj split).2
        fun operation member => unmatched operation (List.mem_filter.mp member).1
  | @operation operation operations merged rest ih =>
    have made : Merged [] (operation :: operations) (before ++ parameter :: after) :=
      split ▸ .operation rest
    have member : parameter ∈ before ++ parameter :: after := by simp
    have present := (made.mem member).resolve_left List.not_mem_nil
    exact absurd (sameKey_refl (operationsProper parameter present))
      (Bool.eq_false_iff.mp (unmatched parameter present))

/-- Behind the first position with a key stand parameter objects of the path that are left as they are. -/
theorem Merged.repeated (made : Merged paths operations merged)
    (split : merged = before ++ parameter :: after)
    (again : ∃ earlier ∈ before, sameKey earlier parameter = true) :
    paths[before.length]? = some parameter := by
  induction made generalizing before with
  | nil => cases before <;> cases split
  | @path paths path operations merged rest ih =>
    obtain ⟨proper, restProper⟩ := List.forall_mem_cons.mp pathsProper
    obtain ⟨successorProper, equal⟩ := sameKey_successor operationsProper proper
    obtain ⟨earlier, member, same⟩ := again
    cases before with
    | nil => cases member
    | cons head before =>
      obtain ⟨rfl, restSplit⟩ := List.cons.inj split
      have othersProper := others_proper operationsProper path
      have parameterProper := rest.proper restProper othersProper parameter (by simp [restSplit])
      rcases List.mem_cons.mp member with rfl | later
      · -- The operations with this key all went to the first position.
        refine rest.kept restProper othersProper restSplit fun operation member => ?_
        obtain ⟨present, different⟩ := List.mem_filter.mp member
        have pathSame := sameKey_trans proper successorProper parameterProper equal same
        rw [← sameKey_congr proper parameterProper (operationsProper operation present) pathSame]
        simpa using different
      · exact ih restProper othersProper restSplit ⟨earlier, later, same⟩
  | @operation operation operations merged rest ih =>
    obtain ⟨proper, restProper⟩ := List.forall_mem_cons.mp operationsProper
    obtain ⟨successorProper, equal⟩ := sameKey_successor restProper proper
    obtain ⟨earlier, member, same⟩ := again
    cases before with
    | nil => cases member
    | cons head before =>
      obtain ⟨rfl, restSplit⟩ := List.cons.inj split
      have othersProper := others_proper restProper operation
      have inRest : parameter ∈ merged := by simp [restSplit]
      have parameterProper := rest.proper pathsProper othersProper parameter inRest
      rcases List.mem_cons.mp member with rfl | later
      · have inOthers := (rest.mem inRest).resolve_left List.not_mem_nil
        have different : sameKey operation parameter = false := by
          simpa using (List.mem_filter.mp inOthers).2
        exact absurd (sameKey_trans proper successorProper parameterProper equal same)
          (Bool.eq_false_iff.mp different)
      · exact absurd (ih pathsProper othersProper restSplit ⟨earlier, later, same⟩) (by simp)

/-- Distinct keys of the path stay distinct, whatever the operation declares. -/
theorem Merged.distinct (made : Merged paths operations merged)
    (apart : paths.Pairwise fun first second => sameKey first second = false) :
    merged.Pairwise fun first second => sameKey first second = false := by
  induction made with
  | nil => exact .nil
  | @path paths path operations merged rest ih =>
    obtain ⟨proper, restProper⟩ := List.forall_mem_cons.mp pathsProper
    obtain ⟨successorProper, equal⟩ := sameKey_successor operationsProper proper
    obtain ⟨pathApart, restApart⟩ := List.pairwise_cons.mp apart
    have othersProper := others_proper operationsProper path
    refine .cons (fun parameter member => ?_) (ih restProper othersProper restApart)
    have parameterProper := rest.proper restProper othersProper parameter member
    rw [← sameKey_congr proper successorProper parameterProper equal]
    rcases rest.mem member with inPaths | inOthers
    · exact pathApart parameter inPaths
    · simpa using (List.mem_filter.mp inOthers).2
  | @operation operation operations merged rest ih =>
    obtain ⟨proper, restProper⟩ := List.forall_mem_cons.mp operationsProper
    obtain ⟨successorProper, equal⟩ := sameKey_successor restProper proper
    have othersProper := others_proper restProper operation
    refine .cons (fun parameter member => ?_) (ih pathsProper othersProper .nil)
    have parameterProper := rest.proper pathsProper othersProper parameter member
    rw [← sameKey_congr proper successorProper parameterProper equal]
    have inOthers := (rest.mem member).resolve_left List.not_mem_nil
    simpa using (List.mem_filter.mp inOthers).2

theorem Merged.exists_sameKey {operation : Entries} (made : Merged paths operations merged)
    (member : operation ∈ operations) :
    ∃ parameter ∈ merged, sameKey operation parameter = true := by
  induction made with
  | nil => cases member
  | @path paths path operations merged rest ih =>
    obtain ⟨proper, restProper⟩ := List.forall_mem_cons.mp pathsProper
    obtain ⟨successorProper, equal⟩ := sameKey_successor operationsProper proper
    cases here : sameKey path operation with
    | true =>
      refine ⟨successor path operations, List.mem_cons_self, ?_⟩
      rw [← sameKey_congr proper (operationsProper operation member) successorProper here]
      exact equal
    | false =>
      have inOthers : operation ∈ others path operations := List.mem_filter.mpr ⟨member, by simp [here]⟩
      obtain ⟨parameter, present, same⟩ := ih restProper (others_proper operationsProper path) inOthers
      exact ⟨parameter, List.mem_cons_of_mem _ present, same⟩
  | @operation first operations merged rest ih =>
    obtain ⟨proper, restProper⟩ := List.forall_mem_cons.mp operationsProper
    obtain ⟨successorProper, equal⟩ := sameKey_successor restProper proper
    cases here : sameKey first operation with
    | true =>
      refine ⟨successor first operations, List.mem_cons_self, ?_⟩
      rw [← sameKey_congr proper (operationsProper operation member) successorProper here]
      exact equal
    | false =>
      have notFirst : operation ≠ first := by
        rintro rfl
        exact Bool.eq_false_iff.mp here (sameKey_refl proper)
      have inOthers : operation ∈ others first operations := List.mem_filter.mpr
        ⟨(List.mem_cons.mp member).resolve_left notFirst, by simp [here]⟩
      obtain ⟨parameter, present, same⟩ := ih pathsProper (others_proper restProper first) inOthers
      exact ⟨parameter, List.mem_cons_of_mem _ present, same⟩

end

/-- Of parameter objects with distinct keys one has a key that some have. -/
theorem countP_sameKey {parameter : Entries} {parameters : List Entries}
    (proper : HasProperKey parameter)
    (parametersProper : ∀ other ∈ parameters, HasProperKey other)
    (apart : parameters.Pairwise fun first second => sameKey first second = false)
    (present : ∃ other ∈ parameters, sameKey parameter other = true) :
    parameters.countP (sameKey parameter) = 1 := by
  induction parameters with
  | nil => simp at present
  | cons first rest ih =>
    obtain ⟨firstProper, restProper⟩ := List.forall_mem_cons.mp parametersProper
    obtain ⟨firstApart, restApart⟩ := List.pairwise_cons.mp apart
    by_cases here : sameKey parameter first = true
    · have noOther : rest.countP (sameKey parameter) = 0 := by
        refine List.countP_eq_zero.mpr fun other member => ?_
        rw [sameKey_congr proper firstProper (restProper other member) here, firstApart other member]
        exact Bool.false_ne_true
      rw [List.countP_cons_of_pos here, noOther]
    · rw [List.countP_cons_of_neg here]
      obtain ⟨other, member, same⟩ := present
      refine ih restProper restApart ⟨other, (List.mem_cons.mp member).resolve_left ?_, same⟩
      rintro rfl
      exact here same

/-- The parameter objects among values. -/
def objects (values : List Value) : List Entries :=
  values.filterMap Value.entries?

theorem objects_proper {values : List Value} (proper : ∀ value ∈ values, value.IsProper) :
    ∀ parameter ∈ objects values, HasProperKey parameter := by
  intro parameter member
  obtain ⟨value, present, found⟩ := List.mem_filterMap.mp member
  have inside := ((proper value present).of_entries? found).2
  have fields := Entries.field_proper fun entry entryPresent => (inside entry entryPresent).2
  exact ⟨fields "name", fields "in"⟩

theorem mem_of_mem_substitute (member : entries ∈ substitute parameter merged) :
    entries = parameter ∨ entries ∈ merged := by
  induction merged with
  | nil => exact .inl (List.mem_singleton.mp member)
  | cons existing rest ih =>
    unfold substitute at member
    split at member
    · exact (List.mem_cons.mp member).imp id (List.mem_cons_of_mem existing)
    · rcases List.mem_cons.mp member with rfl | later
      · exact .inr List.mem_cons_self
      · exact (ih later).imp id (List.mem_cons_of_mem existing)

theorem supersedeAll_cases (merged parameters : List Entries) :
    supersedeAll merged parameters = .ok (overlay merged parameters) ∨
      supersedeAll merged parameters = .error .endless ∧
        ∃ existing ∈ merged ++ parameters, ∃ parameter ∈ parameters,
          sameKey? existing parameter = none := by
  induction parameters generalizing merged with
  | nil => exact .inl rfl
  | cons parameter rest ih =>
    rw [supersedeAll]
    rcases supersede_cases parameter merged with here | ⟨failed, existing, member, never⟩
    · rw [here]
      rcases ih (substitute parameter merged) with further | ⟨failed, existing, member, other, later, never⟩
      · exact .inl further
      · refine .inr ⟨failed, existing, ?_, other, List.mem_cons_of_mem _ later, never⟩
        rcases List.mem_append.mp member with inMerged | inRest
        · rcases mem_of_mem_substitute inMerged with rfl | earlier
          · simp
          · simp [earlier]
        · simp [inRest]
    · rw [failed]
      exact .inr ⟨rfl, existing, List.mem_append_left _ member, parameter, List.mem_cons_self, never⟩

/-- Merging gives the overlay, unless it compares two keys without end. -/
theorem merge_cases (pathLevel operationLevel : List Value) :
    merge pathLevel operationLevel = .ok (overlay (objects pathLevel) (objects operationLevel)) ∨
      merge pathLevel operationLevel = .error .endless ∧
        ∃ existing ∈ objects pathLevel ++ objects operationLevel, ∃ parameter ∈ objects operationLevel,
          sameKey? existing parameter = none :=
  supersedeAll_cases (objects pathLevel) (objects operationLevel)

/-- What parameter objects are merged to is an overlay. -/
theorem eq_overlay_of_merge {pathLevel operationLevel : List Value}
    (success : merge pathLevel operationLevel = .ok merged) :
    merged = overlay (objects pathLevel) (objects operationLevel) := by
  rcases merge_cases pathLevel operationLevel with result | ⟨failed, _⟩
  · exact Except.ok.inj (success.symm.trans result)
  · rw [success] at failed
    cases failed

/-- No collection in the name or the place holds itself. -/
def HasTreeKey (parameter : Entries) : Prop :=
  (Entries.field parameter "name").IsTree ∧ (Entries.field parameter "in").IsTree

theorem isSome_sameKey? {a b : Entries} (tree : HasTreeKey a ∨ HasTreeKey b) :
    (sameKey? a b).isSome = true := by
  obtain ⟨names, compared⟩ := Option.isSome_iff_exists.mp
    (Value.isSome_same? (tree.imp And.left And.left))
  rw [sameKey?, compared]
  cases names with
  | true => exact Value.isSome_same? (tree.imp And.right And.right)
  | false => rfl

/-- A parameter object of the query string. -/
def named (name : Value) (description : String) : Entries :=
  [(.text "name", name), (.text "in", .text "query"), (.text "description", .text description)]

/-- Two parameter objects with one name, an integer and the equal floating-point number, and another one
between them. -/
def onesOnPath : List Value :=
  [.mapping (named (.int 1) "first"), .mapping (named (.text "page") "page"),
    .mapping (named (.float (.finite false (2 ^ 52) (-52))) "second")]

/-- The same name as a truth value, and a new one twice. -/
def onesOfOperation : List Value :=
  [.mapping (named (.text "size") "early"), .null, .mapping (named (.bool true) "own"),
    .mapping (named (.text "size") "late")]

def onesMerged : List Entries :=
  [named (.bool true) "own", named (.text "page") "page",
    named (.float (.finite false (2 ^ 52) (-52))) "second", named (.text "size") "late"]

end TypedClient.Parameter
