import TypedClient.Proofs.Distinct
import TypedClient.Source.Imports

/-!
Names that are imported by a run of requests. The imports that are there take up the names that are
asked for from their modules. For every other module that a name is asked for from there is one import
more; these stand behind the last import that was there before, in the order in which they came.
-/

namespace TypedClient

namespace Distinct

variable [DecidableEq α]

theorem eraseDups_append_left (items more : List α) :
    (items.eraseDups ++ more).eraseDups = (items ++ more).eraseDups := by
  have same : more.removeAll items.eraseDups = more.removeAll items :=
    List.filter_congr fun item _ => by simp [List.elem_eq_contains]
  rw [List.eraseDups_append, List.eraseDups_append, same, eraseDups_eq_self (nodup_eraseDups items)]

end Distinct

namespace ImportDecl

def importsIn (statements : List Statement) : List ImportDecl :=
  statements.filterMap fun
    | .importNames declaration => some declaration
    | _ => none

def modulesIn (statements : List Statement) : List String :=
  (importsIn statements).map (·.module)

def importFrom? (module : String) (statements : List Statement) : Option ImportDecl :=
  (importsIn statements).find? (·.module = module)

/-- A module is imported once, and so is every name of it. -/
structure Tidy (statements : List Statement) : Prop where
  modules : (modulesIn statements).Nodup
  names : ∀ declaration ∈ importsIn statements, declaration.names.Nodup

structure Request where
  module : String
  names : List String

/-- Carries out requests one after another. -/
def addAll (requests : List Request) (statements : List Statement) : List Statement :=
  requests.foldl (fun statements request => addNames request.module request.names statements) statements

/-- All names that are asked for from a module, in order. -/
def requested (requests : List Request) (module : String) : List String :=
  requests.flatMap fun request => if request.module = module then request.names else []

/-- An import with the names that are asked for from its module. -/
def widen (requests : List Request) (declaration : ImportDecl) : ImportDecl :=
  { declaration with
    names := (declaration.names ++ requested requests declaration.module).eraseDups }

/-- A statement with the names that are asked for, if it is an import. -/
def widenIn (requests : List Request) : Statement → Statement
  | .importNames declaration => .importNames (declaration.widen requests)
  | statement => statement

/-- The modules without an import that a name is asked for from, in order of the first such request. -/
def addedModules (requests : List Request) (statements : List Statement) : List String :=
  ((requests.filter fun request => request.names ≠ [] ∧ request.module ∉ modulesIn statements).map
    (·.module)).eraseDups

def addedImports (requests : List Request) (statements : List Statement) : List ImportDecl :=
  (addedModules requests statements).map fun module => widen requests ⟨module, [], true⟩

structure EndsWithImports (front back : List Statement) : Prop where
  last : ∀ statement ∈ front.getLast?, statement.isImport = true
  none : ∀ statement ∈ back, statement.isImport = false

variable {statements rest front back : List Statement} {requests : List Request} {module : String}

/-! ### Imports in parts of the statements -/

theorem importsIn_append (front back : List Statement) :
    importsIn (front ++ back) = importsIn front ++ importsIn back :=
  List.filterMap_append

theorem mem_importsIn : declaration ∈ importsIn statements ↔ .importNames declaration ∈ statements := by
  simp only [importsIn, List.mem_filterMap]
  constructor
  · rintro ⟨statement, member, same⟩
    cases statement with
    | importNames other => exact Option.some.inj same ▸ member
    | _ => cases same
  · exact fun member => ⟨_, member, rfl⟩

theorem importsIn_eq_nil (clear : ∀ statement ∈ statements, statement.isImport = false) :
    importsIn statements = [] := by
  rw [List.eq_nil_iff_forall_not_mem]
  intro declaration member
  exact absurd (clear _ (mem_importsIn.mp member)) (by simp [Statement.isImport])

theorem importsIn_map_importNames (declarations : List ImportDecl) :
    importsIn (declarations.map .importNames) = declarations := by
  rw [importsIn, List.filterMap_map]
  exact List.filterMap_some

theorem importsIn_map_widenIn (requests : List Request) (statements : List Statement) :
    importsIn (statements.map (widenIn requests)) = (importsIn statements).map (widen requests) := by
  induction statements with
  | nil => rfl
  | cons statement rest ih =>
    cases statement with
    | importNames declaration => exact congrArg (widen requests declaration :: ·) ih
    | _ => exact ih

theorem any_isFrom : statements.any (isFrom module) = true ↔ module ∈ modulesIn statements := by
  simp only [List.any_eq_true, modulesIn, List.mem_map, mem_importsIn]
  constructor
  · rintro ⟨statement, member, found⟩
    cases statement with
    | importNames declaration => exact ⟨declaration, member, beq_iff_eq.mp found⟩
    | _ => cases found
  · rintro ⟨declaration, member, same⟩
    exact ⟨_, member, beq_iff_eq.mpr same⟩

/-! ### Names that are asked for -/

theorem requested_concat (requests : List Request) (request : Request) (module : String) :
    requested (requests ++ [request]) module =
      requested requests module ++ if request.module = module then request.names else [] := by
  simp [requested]

theorem requested_eq_nil : requested requests module = [] ↔
    ∀ request ∈ requests, request.module = module → request.names = [] := by
  simp [requested]

theorem widen_of_requested (distinct : declaration.names.Nodup)
    (unasked : requested requests declaration.module = []) : widen requests declaration = declaration := by
  rw [widen, unasked, List.append_nil, Distinct.eraseDups_eq_self distinct]

theorem widen_concat_of_ne {request : Request} (other : request.module ≠ declaration.module) :
    widen (requests ++ [request]) declaration = widen requests declaration := by
  rw [widen, requested_concat, if_neg other, List.append_nil, widen]

theorem widen_widen (requests : List Request) (request : Request) (declaration : ImportDecl) :
    widen [request] (widen requests declaration) = widen (requests ++ [request]) declaration := by
  have last : requested [request] declaration.module =
      if request.module = declaration.module then request.names else [] := by
    simp [requested]
  simp only [widen, last, requested_concat, Distinct.eraseDups_append_left, List.append_assoc]

theorem widenIn_widenIn (requests : List Request) (request : Request) (statement : Statement) :
    widenIn [request] (widenIn requests statement) = widenIn (requests ++ [request]) statement := by
  cases statement with
  | importNames declaration => exact congrArg Statement.importNames (widen_widen ..)
  | _ => rfl

theorem map_widenIn_of_clear (clear : ∀ statement ∈ statements, statement.isImport = false)
    (requests : List Request) : statements.map (widenIn requests) = statements := by
  refine (List.map_congr_left fun statement member => ?_).trans (List.map_id statements)
  cases statement with
  | importNames declaration => exact absurd (clear _ member) (by simp [Statement.isImport])
  | _ => rfl

/-- Statements are left alone when no name is asked for from a module that they import. -/
theorem map_widenIn_of_requested (tidy : Tidy statements)
    (unasked : ∀ module ∈ modulesIn statements, requested requests module = []) :
    statements.map (widenIn requests) = statements := by
  refine (List.map_congr_left fun statement member => ?_).trans (List.map_id statements)
  cases statement with
  | importNames declaration =>
    have imported := mem_importsIn.mpr member
    exact congrArg Statement.importNames
      (widen_of_requested (tidy.names declaration imported) (unasked _ (List.mem_map_of_mem imported)))
  | _ => rfl

/-! ### One request -/

theorem Tidy.of_append (tidy : Tidy (front ++ back)) : Tidy front ∧ Tidy back := by
  have distinct := tidy.modules
  rw [modulesIn, importsIn_append, List.map_append, List.nodup_append] at distinct
  have names := tidy.names
  rw [importsIn_append] at names
  exact ⟨⟨distinct.1, fun _ member => names _ (List.mem_append_left _ member)⟩,
    ⟨distinct.2.1, fun _ member => names _ (List.mem_append_right _ member)⟩⟩

theorem extendFirst_eq_map (tidy : Tidy statements) (module : String) (names : List String) :
    extendFirst module names statements = statements.map (widenIn [⟨module, names⟩]) := by
  induction statements with
  | nil => rfl
  | cons statement rest ih =>
    have whole : Tidy ([statement] ++ rest) := tidy
    have restTidy := whole.of_append.2
    cases statement with
    | importNames declaration =>
      have alone : requested [⟨module, names⟩] declaration.module =
          if module = declaration.module then names else [] := by
        simp [requested]
      by_cases same : declaration.module = module
      · have others : ∀ other ∈ modulesIn rest, requested [⟨module, names⟩] other = [] := by
          intro other member
          have apart : module ≠ other := by
            rintro rfl
            have distinct : (declaration.module :: modulesIn rest).Nodup := tidy.modules
            exact (List.nodup_cons.mp distinct).1 (same ▸ member)
          simp [requested, apart]
        rw [extendFirst, if_pos same, List.map_cons, map_widenIn_of_requested restTidy others,
          widenIn, widen, alone, if_pos same.symm]
      · have kept : widen [⟨module, names⟩] declaration = declaration :=
          widen_of_requested (tidy.names declaration List.mem_cons_self)
            (alone.trans (if_neg fun equal => same equal.symm))
        rw [extendFirst, if_neg same, List.map_cons, widenIn, kept, ih restTidy]
    | _ => exact congrArg (_ :: ·) (ih restTidy)

theorem exists_endsWithImports (statements : List Statement) :
    ∃ front back, statements = front ++ back ∧ EndsWithImports front back := by
  induction statements using List.reverseRecOn with
  | nil => exact ⟨[], [], rfl, by simp, by simp⟩
  | append_singleton statements statement ih =>
    obtain ⟨front, back, rfl, ends⟩ := ih
    by_cases isImport : statement.isImport = true
    · exact ⟨front ++ back ++ [statement], [], (List.append_nil _).symm, by simpa using isImport, by simp⟩
    · refine ⟨front, back ++ [statement], List.append_assoc .., ends.last, ?_⟩
      intro other member
      rcases List.mem_append.mp member with inBack | last
      · exact ends.none other inBack
      · rw [List.mem_singleton.mp last]
        exact Bool.eq_false_iff.mpr isImport

theorem insertAfterImports_append (ends : EndsWithImports front back) (added : Statement) :
    insertAfterImports added (front ++ back) = front ++ added :: back := by
  induction front with
  | nil =>
    cases back with
    | nil => rfl
    | cons statement back =>
      have clear : (statement :: back).any Statement.isImport = false := by
        rw [List.any_eq_false]
        exact fun other member => Bool.eq_false_iff.mp (ends.none other member)
      simp [insertAfterImports, clear]
  | cons statement front ih =>
    obtain ⟨last, found⟩ : ∃ last, (statement :: front).getLast? = some last :=
      ⟨_, List.getLast?_eq_some_getLast (List.cons_ne_nil statement front)⟩
    have present : (statement :: front ++ back).any Statement.isImport = true :=
      List.any_eq_true.mpr
        ⟨last, List.mem_append_left back (List.mem_of_getLast? found), ends.last last found⟩
    have restEnds : EndsWithImports front back := by
      refine ⟨fun other member => ?_, ends.none⟩
      cases front with
      | nil => cases member
      | cons next front => exact ends.last other (by rwa [List.getLast?_cons_cons])
    rw [List.cons_append] at present ⊢
    rw [insertAfterImports, if_pos present, ih restEnds, List.cons_append]

theorem addNames_eq_map (tidy : Tidy statements) {names : List String}
    (settled : module ∈ modulesIn statements ∨ names = []) :
    addNames module names statements = statements.map (widenIn [⟨module, names⟩]) := by
  unfold addNames
  by_cases imported : module ∈ modulesIn statements
  · rw [if_pos (any_isFrom.mpr imported), extendFirst_eq_map tidy]
  · obtain rfl := settled.resolve_left imported
    have unasked : ∀ other ∈ modulesIn statements, requested [⟨module, []⟩] other = [] := by
      simp [requested]
    rw [if_neg fun found => imported (any_isFrom.mp found), map_widenIn_of_requested tidy unasked]
    rfl

theorem addNames_eq_insert (ends : EndsWithImports front back) {names : List String}
    (fresh : module ∉ modulesIn (front ++ back)) (asked : names ≠ []) :
    addNames module names (front ++ back) =
      front ++ .importNames ⟨module, names.eraseDups, true⟩ :: back := by
  unfold addNames
  rw [if_neg fun found => fresh (any_isFrom.mp found), if_neg (by simpa using asked),
    insertAfterImports_append ends]

/-! ### A run of requests -/

theorem mem_addedModules : module ∈ addedModules requests statements ↔
    module ∉ modulesIn statements ∧ requested requests module ≠ [] := by
  rw [Ne, requested_eq_nil]
  simp only [addedModules, List.mem_eraseDups, List.mem_map, List.mem_filter, decide_eq_true_eq]
  constructor
  · rintro ⟨request, ⟨member, asked, fresh⟩, rfl⟩
    exact ⟨fresh, fun unasked => asked (unasked request member rfl)⟩
  · rintro ⟨fresh, asked⟩
    simp only [not_forall] at asked
    obtain ⟨request, member, rfl, names⟩ := asked
    exact ⟨request, ⟨member, names, fresh⟩, rfl⟩

/-- A request for a name from a module that has no import yet gives it one. -/
theorem addedModules_concat_new {request : Request}
    (fresh : request.module ∉ modulesIn statements ++ addedModules requests statements)
    (asked : request.names ≠ []) :
    addedModules (requests ++ [request]) statements =
      addedModules requests statements ++ [request.module] := by
  obtain ⟨unimported, notAdded⟩ := not_or.mp (mt List.mem_append.mpr fresh)
  have kept : [request].filter (fun request => decide (request.names ≠ [] ∧
      request.module ∉ modulesIn statements)) = [request] := by simp [asked, unimported]
  rw [addedModules, List.mem_eraseDups] at notAdded
  rw [addedModules, List.filter_append, kept, List.map_append, List.map_singleton,
    Distinct.eraseDups_concat, if_neg notAdded, ← addedModules]

theorem addedModules_concat_old {request : Request}
    (settled : request.module ∈ modulesIn statements ++ addedModules requests statements ∨
      request.names = []) :
    addedModules (requests ++ [request]) statements = addedModules requests statements := by
  by_cases counts : request.names ≠ [] ∧ request.module ∉ modulesIn statements
  · have kept : [request].filter (fun request => decide (request.names ≠ [] ∧
        request.module ∉ modulesIn statements)) = [request] := by simp [counts]
    have added := (List.mem_append.mp (settled.resolve_right counts.1)).resolve_left counts.2
    rw [addedModules, List.mem_eraseDups] at added
    rw [addedModules, List.filter_append, kept, List.map_append, List.map_singleton,
      Distinct.eraseDups_concat, if_pos added, ← addedModules]
  · have dropped : [request].filter (fun request => decide (request.names ≠ [] ∧
        request.module ∉ modulesIn statements)) = [] := by simpa using counts
    rw [addedModules, List.filter_append, dropped, List.append_nil, ← addedModules]

/-- What requests make of statements whose last import ends the first part. -/
def afterwards (requests : List Request) (front back : List Statement) : List Statement :=
  front.map (widenIn requests) ++ (addedImports requests (front ++ back)).map .importNames ++ back

theorem importsIn_afterwards (ends : EndsWithImports front back) (requests : List Request) :
    importsIn (afterwards requests front back) =
      (importsIn (front ++ back)).map (widen requests) ++ addedImports requests (front ++ back) := by
  rw [afterwards, importsIn_append, importsIn_append, importsIn_append front back,
    importsIn_map_widenIn, importsIn_map_importNames, importsIn_eq_nil ends.none, List.append_nil,
    List.append_nil]

theorem modulesIn_afterwards (ends : EndsWithImports front back) (requests : List Request) :
    modulesIn (afterwards requests front back) =
      modulesIn (front ++ back) ++ addedModules requests (front ++ back) := by
  rw [modulesIn, importsIn_afterwards ends, addedImports, List.map_append, List.map_map, List.map_map]
  exact congrArg (modulesIn (front ++ back) ++ ·) (List.map_id _)

theorem tidy_afterwards (tidy : Tidy (front ++ back)) (ends : EndsWithImports front back)
    (requests : List Request) : Tidy (afterwards requests front back) := by
  constructor
  · rw [modulesIn_afterwards ends, List.nodup_append]
    refine ⟨tidy.modules, Distinct.nodup_eraseDups _, ?_⟩
    rintro module imported _ added rfl
    exact (mem_addedModules.mp added).1 imported
  · intro declaration member
    rw [importsIn_afterwards ends, addedImports, List.mem_append, List.mem_map, List.mem_map] at member
    rcases member with ⟨imported, _, rfl⟩ | ⟨module, _, rfl⟩ <;> exact Distinct.nodup_eraseDups _

theorem isImport_widenIn (requests : List Request) (statement : Statement) :
    (widenIn requests statement).isImport = statement.isImport := by
  cases statement <;> rfl

/-- The last import is still in front of the second part. -/
theorem endsWithImports_afterwards (ends : EndsWithImports front back) (requests : List Request) :
    EndsWithImports (front.map (widenIn requests) ++
      (addedImports requests (front ++ back)).map .importNames) back := by
  refine ⟨fun statement last => ?_, ends.none⟩
  rw [List.getLast?_append, Option.mem_def, Option.or_eq_some_iff] at last
  rcases last with added | ⟨_, widened⟩
  · obtain ⟨declaration, _, rfl⟩ := List.mem_map.mp (List.mem_of_getLast? added)
    rfl
  · rw [List.getLast?_map, Option.map_eq_some_iff] at widened
    obtain ⟨before, found, rfl⟩ := widened
    rw [isImport_widenIn]
    exact ends.last before found

theorem map_widenIn_afterwards (ends : EndsWithImports front back) {request : Request}
    (settled : request.module ∈ modulesIn (afterwards requests front back) ∨ request.names = []) :
    (afterwards requests front back).map (widenIn [request]) =
      afterwards (requests ++ [request]) front back := by
  rw [modulesIn_afterwards ends] at settled
  simp only [afterwards, addedImports, addedModules_concat_old settled, List.map_append, List.map_map,
    map_widenIn_of_clear ends.none]
  congr 2
  · exact List.map_congr_left fun statement _ => widenIn_widenIn ..
  · exact List.map_congr_left fun module _ => congrArg Statement.importNames (widen_widen ..)

theorem insert_afterwards (ends : EndsWithImports front back) {request : Request}
    (fresh : request.module ∉ modulesIn (afterwards requests front back)) (asked : request.names ≠ []) :
    front.map (widenIn requests) ++ (addedImports requests (front ++ back)).map .importNames ++
        .importNames ⟨request.module, request.names.eraseDups, true⟩ :: back =
      afterwards (requests ++ [request]) front back := by
  rw [modulesIn_afterwards ends] at fresh
  obtain ⟨unimported, notAdded⟩ := not_or.mp (mt List.mem_append.mpr fresh)
  have unasked : requested requests request.module = [] :=
    Classical.byContradiction fun some => notAdded (mem_addedModules.mpr ⟨unimported, some⟩)
  have here : widen (requests ++ [request]) ⟨request.module, [], true⟩ =
      ⟨request.module, request.names.eraseDups, true⟩ := by
    simp [widen, requested_concat, unasked]
  have inFront : front.map (widenIn (requests ++ [request])) = front.map (widenIn requests) := by
    refine List.map_congr_left fun statement member => ?_
    cases statement with
    | importNames declaration =>
      refine congrArg Statement.importNames (widen_concat_of_ne fun same => unimported ?_)
      exact same ▸ List.mem_map_of_mem (mem_importsIn.mpr (List.mem_append_left back member))
    | _ => rfl
  have added : addedImports (requests ++ [request]) (front ++ back) =
      addedImports requests (front ++ back) ++
        [⟨request.module, request.names.eraseDups, true⟩] := by
    rw [addedImports, addedModules_concat_new fresh asked, List.map_append, List.map_singleton, here]
    refine congrArg (· ++ [_]) (List.map_congr_left fun module member => widen_concat_of_ne ?_)
    rintro rfl
    exact notAdded member
  rw [afterwards, inFront, added]
  simp

theorem addAll_concat (requests : List Request) (request : Request) (statements : List Statement) :
    addAll (requests ++ [request]) statements =
      addNames request.module request.names (addAll requests statements) := by
  simp [addAll]

theorem addAll_eq_afterwards (tidy : Tidy (front ++ back)) (ends : EndsWithImports front back)
    (requests : List Request) : addAll requests (front ++ back) = afterwards requests front back := by
  induction requests using List.reverseRecOn with
  | nil =>
    have unchanged : front.map (widenIn []) = front :=
      map_widenIn_of_requested tidy.of_append.1 fun _ _ => rfl
    simp [afterwards, unchanged, addAll, addedImports, addedModules]
  | append_singleton requests request ih =>
    rw [addAll_concat, ih]
    by_cases settled :
        request.module ∈ modulesIn (afterwards requests front back) ∨ request.names = []
    · rw [addNames_eq_map (tidy_afterwards tidy ends requests) settled,
        map_widenIn_afterwards ends settled]
    · obtain ⟨fresh, asked⟩ := not_or.mp settled
      rw [← insert_afterwards ends fresh asked]
      exact addNames_eq_insert (endsWithImports_afterwards ends requests) fresh asked

/-! ### What a run leaves -/

theorem importFrom?_eq_none : importFrom? module statements = none ↔ module ∉ modulesIn statements := by
  simp [importFrom?, modulesIn]

theorem importFrom?_afterwards (ends : EndsWithImports front back) (requests : List Request)
    (module : String) :
    importFrom? module (afterwards requests front back) =
      ((importFrom? module (front ++ back)).map (widen requests)).or
        ((addedImports requests (front ++ back)).find? (·.module = module)) := by
  rw [importFrom?, importsIn_afterwards ends, List.find?_append, List.find?_map]
  rfl

theorem find?_addedImports (fresh : module ∉ modulesIn statements) :
    (addedImports requests statements).find? (·.module = module) =
      if requested requests module = [] then none
      else some ⟨module, (requested requests module).eraseDups, true⟩ := by
  have added : module ∈ addedModules requests statements ↔ _ := mem_addedModules
  rw [addedImports, List.find?_map]
  split
  · rename_i unasked
    have absent : module ∉ addedModules requests statements := fun member => (added.mp member).2 unasked
    rw [List.find?_eq_none.mpr]
    · rfl
    · rintro other member same
      obtain rfl : other = module := of_decide_eq_true same
      exact absent member
  · rename_i asked
    have present := added.mpr ⟨fresh, asked⟩
    cases found : (addedModules requests statements).find?
        ((fun declaration : ImportDecl => decide (declaration.module = module)) ∘
          fun module => widen requests ⟨module, [], true⟩) with
    | none => exact absurd (decide_eq_true rfl) (List.find?_eq_none.mp found module present)
    | some other =>
      have chosen := List.find?_some found
      obtain rfl : other = module := of_decide_eq_true chosen
      simp [widen]

/-- The statement imports from a module that the given statements do not import. -/
def isNewIn (statements : List Statement) : Statement → Bool
  | .importNames declaration => declaration.module ∉ modulesIn statements
  | _ => false

theorem isNewIn_widenIn (requests : List Request) (member : statement ∈ statements) :
    isNewIn statements (widenIn requests statement) = false := by
  cases statement with
  | importNames declaration =>
    have imported : declaration.module ∈ modulesIn statements :=
      List.mem_map_of_mem (mem_importsIn.mpr member)
    simpa [isNewIn, widenIn, widen] using imported
  | _ => rfl

theorem filter_afterwards (ends : EndsWithImports front back) (requests : List Request) :
    (afterwards requests front back).filter (!isNewIn (front ++ back) ·) =
      (front ++ back).map (widenIn requests) := by
  have old : (front.map (widenIn requests)).filter (!isNewIn (front ++ back) ·) =
      front.map (widenIn requests) := by
    refine List.filter_eq_self.mpr fun statement member => ?_
    obtain ⟨before, present, rfl⟩ := List.mem_map.mp member
    rw [isNewIn_widenIn requests (List.mem_append_left back present)]
    rfl
  have new : ((addedImports requests (front ++ back)).map Statement.importNames).filter
      (!isNewIn (front ++ back) ·) = [] := by
    refine List.filter_eq_nil_iff.mpr fun statement member => ?_
    obtain ⟨declaration, added, rfl⟩ := List.mem_map.mp member
    obtain ⟨module, fresh, rfl⟩ := List.mem_map.mp added
    have unimported := (mem_addedModules.mp fresh).1
    simp [isNewIn, widen, unimported]
  have rest : back.filter (!isNewIn (front ++ back) ·) = back := by
    refine List.filter_eq_self.mpr fun statement member => ?_
    cases statement with
    | importNames declaration => exact absurd (ends.none _ member) (by simp [Statement.isImport])
    | _ => rfl
  rw [afterwards, List.filter_append, List.filter_append, old, new, rest, List.append_nil,
    List.map_append, map_widenIn_of_clear ends.none]

/-- Requests that are carried out on tidy statements leave them tidy. The import of a module takes up the
names that are asked for, each once and in order; a module without an import has one afterwards exactly
when a name is asked for from it, and this import comes behind the last one at that time. All other
statements stay as they are, in order. -/
theorem addAll_merges (tidy : Tidy statements) (requests : List Request) :
    Tidy (addAll requests statements) ∧
      (∀ module declaration, importFrom? module statements = some declaration →
        importFrom? module (addAll requests statements) = some { declaration with
          names := (declaration.names ++ requested requests module).eraseDups }) ∧
      (∀ module, importFrom? module statements = none →
        ((importFrom? module (addAll requests statements)).isSome ↔
          ∃ request ∈ requests, request.module = module ∧ request.names ≠ []) ∧
        ∀ declaration, importFrom? module (addAll requests statements) = some declaration →
          declaration.names = (requested requests module).eraseDups) ∧
      (∀ earlier request later, requests = earlier ++ request :: later →
        importFrom? request.module (addAll earlier statements) = none → request.names ≠ [] →
        ∃ front back, EndsWithImports front back ∧ addAll earlier statements = front ++ back ∧
          addAll (earlier ++ [request]) statements =
            front ++ .importNames ⟨request.module, request.names.eraseDups, true⟩ :: back) ∧
      (addAll requests statements).filter (!isNewIn statements ·) = statements.map (widenIn requests) ∧
      ∀ statement ∈ statements,
        (∀ declaration, statement = .importNames declaration →
          requested requests declaration.module = []) →
        widenIn requests statement = statement := by
  obtain ⟨front, back, rfl, ends⟩ := exists_endsWithImports statements
  have whole := addAll_eq_afterwards tidy ends
  refine ⟨whole requests ▸ tidy_afterwards tidy ends requests, ?_, ?_, ?_,
    whole requests ▸ filter_afterwards ends requests, ?_⟩
  · intro module declaration imported
    have chosen := List.find?_some imported
    have named : declaration.module = module := of_decide_eq_true chosen
    rw [whole, importFrom?_afterwards ends, imported, Option.map_some, Option.some_or, widen, named]
  · intro module absent
    have fresh := importFrom?_eq_none.mp absent
    have found : importFrom? module (addAll requests (front ++ back)) =
        if requested requests module = [] then none
        else some ⟨module, (requested requests module).eraseDups, true⟩ := by
      rw [whole, importFrom?_afterwards ends, absent, Option.map_none, Option.none_or,
        find?_addedImports fresh]
    rw [found]
    constructor
    · have asked : requested requests module ≠ [] ↔
          ∃ request ∈ requests, request.module = module ∧ request.names ≠ [] := by
        simp [requested_eq_nil]
      rw [← asked]
      split <;> simp_all
    · intro declaration same
      split at same
      · cases same
      · cases same
        rfl
  · rintro earlier request later - absent asked
    rw [whole] at absent
    have fresh := importFrom?_eq_none.mp absent
    refine ⟨_, back, endsWithImports_afterwards ends earlier, whole earlier, ?_⟩
    rw [insert_afterwards ends fresh asked, whole]
  · intro statement member unasked
    cases statement with
    | importNames declaration =>
      have distinct := tidy.names declaration (mem_importsIn.mpr member)
      exact congrArg Statement.importNames (widen_of_requested distinct (unasked declaration rfl))
    | _ => rfl

/-- Statements with two imports, one of them for values, among others. -/
def scattered : List Statement := [
  .verbatim "const first = 1;", .importNames ⟨"./shared", ["Adapter"], false⟩,
  .verbatim "const second = 2;", .importNames ⟨"./models", ["User"], true⟩,
  .typeAlias "Users" "User[]" true]

/-- Requests that meet imports, ask for nothing, and ask for new modules more than once. -/
def mixedRequests : List Request := [
  ⟨"./roles", []⟩, ⟨"./models", ["Role", "User", "Role"]⟩, ⟨"./roles", ["Admin", "Admin"]⟩,
  ⟨"./pages", ["Page"]⟩, ⟨"./roles", ["Guest", "Admin"]⟩]

theorem addAll_merges_scattered :
    Tidy scattered ∧ Tidy (addAll mixedRequests scattered) ∧
      addAll mixedRequests scattered = [
        .verbatim "const first = 1;", .importNames ⟨"./shared", ["Adapter"], false⟩,
        .verbatim "const second = 2;", .importNames ⟨"./models", ["User", "Role"], true⟩,
        .importNames ⟨"./roles", ["Admin", "Guest"], true⟩, .importNames ⟨"./pages", ["Page"], true⟩,
        .typeAlias "Users" "User[]" true] := by
  have tidy : Tidy scattered := ⟨by decide, by decide⟩
  exact ⟨tidy, (addAll_merges tidy mixedRequests).1, by decide +kernel⟩

end ImportDecl

end TypedClient
