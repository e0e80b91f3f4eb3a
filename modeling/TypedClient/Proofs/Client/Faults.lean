import TypedClient.Proofs.Association
import TypedClient.Proofs.Client.Compiled
import TypedClient.Proofs.Operation.Faults

namespace TypedClient

namespace PathItem

/-- The key is neither a supported kind of operation nor metadata, and begins no extension. -/
def Unknown (key : Value) : Prop :=
  (∀ word ∈ knownMethods ++ metadataKeys, key ≠ .text word) ∧ ¬"x-".toList <+: key.toText.toList

theorem isOneOf_iff {words : List String} {key : Value} :
    isOneOf words key = true ↔ ∃ word ∈ words, key = .text word := by
  cases key <;> simp [isOneOf, Value.text?]

theorem isKnownKey_iff {key : Value} : isKnownKey key = false ↔ Unknown key := by
  rw [Unknown, ← List.isPrefixOf_iff_prefix, ← isExtension, isKnownKey]
  simp only [Bool.or_eq_false_iff, Bool.not_eq_true, List.forall_mem_append]
  have isNone (words : List String) : isOneOf words key = false ↔ ∀ word ∈ words, key ≠ .text word := by
    rw [← Bool.not_eq_true, isOneOf_iff]
    simp
  rw [isNone, isNone]

instance : DecidablePred Unknown :=
  fun _ => decidable_of_iff _ isKnownKey_iff

/-- The texts of the unknown keys in order. -/
theorem unknownKeys_eq (item : Entries) :
    unknownKeys item = (item.filter fun entry => Unknown entry.1).map fun entry => entry.1.toText := by
  unfold unknownKeys
  congr 1
  refine List.filter_congr fun entry _ => ?_
  rw [Bool.eq_iff_iff, decide_eq_true_iff, ← isKnownKey_iff, Bool.not_eq_true']

theorem unknownKeys_eq_nil_iff {item : Entries} :
    unknownKeys item = [] ↔ ∀ entry ∈ item, ¬Unknown entry.1 := by
  simp [unknownKeys_eq]

theorem mem_operations {item : Entries} {method : String} {operation : Entries} :
    (method, operation) ∈ operations item ↔
      method ∈ knownMethods ∧
        ∃ value, (.text method, value) ∈ item ∧ value.entries? = some operation := by
  rw [operations, List.mem_filterMap]
  constructor
  · rintro ⟨⟨key, value⟩, member, read⟩
    unfold operation? at read
    split at read
    · rename_i word entries isWord isMapping
      obtain ⟨supported, same⟩ := Option.ite_none_right_eq_some.mp read
      cases same
      cases key with
      | text _ => cases isWord; exact ⟨by simpa using supported, value, member, isMapping⟩
      | _ => cases isWord
    · cases read
  · rintro ⟨supported, value, member, mapping⟩
    exact ⟨(.text method, value), member, by simp [operation?, Value.text?, mapping, supported]⟩

theorem operations_keep {item : Entries} (keeps : item.Keeps limit) :
    ∀ one ∈ operations item, one.2.Keeps limit := by
  intro one member
  obtain ⟨_, value, declared, mapping⟩ := mem_operations.mp member
  exact (Entries.keeps_iff.mp keeps _ declared).2.entries? mapping

/-- What is at fault with a path item: all its unknown keys, or a misplaced parameter object that it or
one of its operations declares. -/
inductive Faults (path : String) (item : Entries) : CompileError → Prop where
  | unknownKeys (unknown : ∃ entry ∈ item, Unknown entry.1) :
      Faults path item (.unknownMethods path
        ((item.filter fun entry => Unknown entry.1).map fun entry => entry.1.toText))
  | compositePlace (known : ∀ entry ∈ item, ¬Unknown entry.1) (supported : method ∈ knownMethods)
      (declared : (.text method, value) ∈ item) (mapping : value.entries? = some operation)
      (misplaced : Parameter.Misplaced
        (Operation.fieldItems item "parameters" ++ Operation.fieldItems operation "parameters")) :
      Faults path item .compositePlace

/-- A path item has one fault at most: unknown keys keep its operations from being read. -/
theorem Faults.unique (fault : Faults path item cause) (other : Faults path item otherCause) :
    cause = otherCause := by
  cases fault with
  | unknownKeys unknown =>
    obtain ⟨entry, member, isUnknown⟩ := unknown
    cases other with
    | unknownKeys => rfl
    | compositePlace known => exact absurd isUnknown (known entry member)
  | compositePlace known =>
    cases other with
    | unknownKeys unknown =>
      obtain ⟨entry, member, isUnknown⟩ := unknown
      exact absurd isUnknown (known entry member)
    | compositePlace => rfl

/-- A path item without unknown keys is at fault for its misplaced parameter objects only. -/
theorem faults_of_known {item : Entries} (known : ∀ entry ∈ item, ¬Unknown entry.1) :
    Faults path item cause ↔ cause = .compositePlace ∧ ∃ one ∈ operations item, Parameter.Misplaced
      (Operation.fieldItems item "parameters" ++ Operation.fieldItems one.2 "parameters") := by
  constructor
  · rintro (⟨entry, member, unknown⟩ | ⟨_, supported, declared, mapping, misplaced⟩)
    · exact absurd unknown (known entry member)
    · exact ⟨rfl, _, mem_operations.mpr ⟨supported, _, declared, mapping⟩, misplaced⟩
  · rintro ⟨rfl, one, member, misplaced⟩
    obtain ⟨supported, value, declared, mapping⟩ := mem_operations.mp member
    exact .compositePlace known supported declared mapping misplaced

/-- A path item with nothing at fault. -/
def Sound (path : String) (item : Entries) : Prop :=
  ∀ cause, ¬Faults path item cause

theorem ensureKnown_judged (path : String) (item : Entries) :
    Judged (item.Keeps ·)
      (fun cause => (∃ entry ∈ item, Unknown entry.1) ∧ cause = .unknownMethods path
        ((item.filter fun entry => Unknown entry.1).map fun entry => entry.1.toText))
      (ensureKnown path item) := by
  unfold ensureKnown
  refine .after (.ensureWritable fun keeps value member => ?_) fun _ _ => ?_
  · obtain ⟨entry, present, rfl⟩ := List.mem_map.mp member
    exact (Entries.keeps_iff.mp keeps entry present).1
  · cases keys : unknownKeys item with
    | nil =>
      rintro _ ⟨⟨entry, member, unknown⟩, _⟩
      exact unknownKeys_eq_nil_iff.mp keys entry member unknown
    | cons key others =>
      have unknown : ∃ entry ∈ item, Unknown entry.1 := by
        by_contra none
        have empty := unknownKeys_eq_nil_iff.mpr fun entry member unknown => none ⟨entry, member, unknown⟩
        rw [keys] at empty
        cases empty
      exact .inl ⟨unknown, by rw [← unknownKeys_eq, keys]⟩

end PathItem

namespace Client

open PathItem (Unknown Faults Sound)

theorem declare_judged (path : String) (pathParameters : List Value) (method : String)
    (entries : Entries) :
    Judged (fun limit => entries.Keeps limit ∧ ∀ value ∈ pathParameters, value.Keeps limit)
      (fun cause => cause = .compositePlace ∧
        Parameter.Misplaced (pathParameters ++ Operation.fieldItems entries "parameters"))
      (declare path pathParameters method entries) := by
  refine .after (.ensureWritable fun keeps value member => ?_) fun _ _ => ?_
  · exact List.mem_singleton.mp member ▸ keeps.1.field "operationId"
  · exact (Operation.extract_judged path method entries pathParameters).last fun _ _ => ⟨_, rfl⟩

theorem declareAll_judged (path : String) (pathParameters : List Value)
    (operations : List (String × Entries)) :
    Judged (fun limit =>
        (∀ one ∈ operations, one.2.Keeps limit) ∧ ∀ value ∈ pathParameters, value.Keeps limit)
      (fun cause => cause = .compositePlace ∧ ∃ one ∈ operations,
        Parameter.Misplaced (pathParameters ++ Operation.fieldItems one.2 "parameters"))
      (declareAll path pathParameters operations) := by
  induction operations with
  | nil => exact fun _ fault => by simpa using fault.2
  | cons first rest ih =>
    obtain ⟨method, entries⟩ := first
    simp only [List.forall_mem_cons]
    have here := declare_judged path pathParameters method entries
    refine ((here.weaken fun _ keeps => ⟨keeps.1.1, keeps.2⟩).bind fun _ _ =>
      (ih.weaken fun _ keeps => ⟨keeps.1.2, keeps.2⟩).last fun _ _ => ⟨_, rfl⟩).congr fun cause => ?_
    simp only [List.mem_cons, exists_eq_or_imp, ← and_or_left]

theorem contribution_judged (path : String) (item : Entries) :
    Judged (item.Keeps ·) (Faults path item) (contribution path item) := by
  -- Operations are read only when all keys are known: unknown keys hide misplaced parameter objects.
  have keysJudged := PathItem.ensureKnown_judged path item
  refine keysJudged.andThen (fun cause => ?_) fun _ success => ?_
  · rintro ⟨unknown, rfl⟩
    exact .unknownKeys unknown
  · have known : ∀ entry ∈ item, ¬Unknown entry.1 :=
      fun entry member unknown => keysJudged.sound success _ ⟨⟨entry, member, unknown⟩, rfl⟩
    have operations := (declareAll_judged path (Operation.fieldItems item "parameters")
      (PathItem.operations item)).weaken fun _ (keeps : item.Keeps _) =>
        ⟨PathItem.operations_keep keeps, Operation.fieldItems_keeps keeps⟩
    have rest : Judged (item.Keeps ·) (Faults path item) _ :=
      operations.congr fun cause => (PathItem.faults_of_known known).symm
    split
    · rename_i none
      rw [none] at rest
      exact rest
    · exact rest.last fun _ _ => ⟨_, rfl⟩

/-- The cause that the first path item at fault gives. -/
inductive FirstFault : List (String × Entries) → CompileError → Prop where
  | here (fault : Faults path item cause) : FirstFault ((path, item) :: rest) cause
  | later (sound : Sound path item) (fault : FirstFault rest cause) :
      FirstFault ((path, item) :: rest) cause

theorem contributions_judged (items : List (String × Entries)) :
    Judged (fun limit => ∀ one ∈ items, one.2.Keeps limit) (FirstFault items) (contributions items) := by
  induction items with
  | nil =>
    rintro _ ⟨⟩
  | cons one rest ih =>
    obtain ⟨path, item⟩ := one
    simp only [List.forall_mem_cons]
    have first := contribution_judged path item
    refine (first.weaken fun _ => And.left).andThen (fun _ => .here) fun _ success => ?_
    have sound : Sound path item := first.sound success
    refine ((ih.weaken fun _ => And.right).last fun _ _ => ⟨_, rfl⟩).congr fun cause => ⟨.later sound, ?_⟩
    rintro (fault | ⟨_, fault⟩)
    · exact absurd fault (sound cause)
    · exact fault

theorem FirstFault.unique (fault : FirstFault items cause) (other : FirstFault items otherCause) :
    cause = otherCause := by
  induction fault with
  | here fault =>
    cases other with
    | here otherFault => exact fault.unique otherFault
    | later sound => exact absurd fault (sound _)
  | later sound _ ih =>
    cases other with
    | here otherFault => exact absurd otherFault (sound _)
    | later _ otherFault => exact ih otherFault

theorem FirstFault.exists_faults (fault : FirstFault items cause) :
    ∃ one ∈ items, Faults one.1 one.2 cause := by
  induction fault with
  | here fault => exact ⟨_, List.mem_cons_self, fault⟩
  | later _ _ ih =>
    obtain ⟨one, member, fault⟩ := ih
    exact ⟨one, List.mem_cons_of_mem _ member, fault⟩

/-- When a path item is at fault, some path item is the first one at fault. -/
theorem exists_firstFault {items : List (String × Entries)} (member : one ∈ items)
    (fault : Faults one.1 one.2 cause) : ∃ first, FirstFault items first := by
  induction items with
  | nil => cases member
  | cons item rest ih =>
    by_cases sound : Sound item.1 item.2
    · rcases List.mem_cons.mp member with rfl | later
      · exact absurd fault (sound cause)
      · obtain ⟨first, firstFault⟩ := ih later
        exact ⟨first, .later sound firstFault⟩
    · obtain ⟨first, firstFault⟩ := Classical.not_forall_not.mp sound
      exact ⟨first, .here firstFault⟩

theorem pathItems_keep (keeps : document.Keeps limit)
    (mapping : (Entries.field document "paths").entries? = some entries) :
    ∀ one ∈ entries.filterMap Document.pathEntry?, one.2.Keeps limit := by
  intro one member
  obtain ⟨entry, declared, found⟩ := List.mem_filterMap.mp member
  have paths := (keeps.field "paths").entries? mapping
  unfold Document.pathEntry? at found
  split at found
  · rename_i isMapping
    cases found
    exact (Entries.keeps_iff.mp paths entry declared).2.entries? isMapping
  · cases found

theorem schemaEntries_keep {document : Entries} (keeps : document.Keeps limit) :
    (Document.schemaEntries document).Keeps limit := by
  have nothing : Entries.Keeps limit [] := Entries.keeps_iff.mpr (by simp)
  have within {value : Value} (whole : value.Keeps limit) : (value.entries?.getD []).Keeps limit := by
    cases found : value.entries? with
    | none => exact nothing
    | some entries => exact whole.entries? found
  exact within ((within (keeps.field "components")).field "schemas")

theorem ofSchemas_harmless (schemas : List (String × Value)) :
    Harmless (fun limit => ∀ schema ∈ schemas, schema.2.Keeps limit) (Model.ofSchemas schemas) := by
  induction schemas with
  | nil => exact .harmless_ok _
  | cons first rest ih =>
    obtain ⟨name, schema⟩ := first
    simp only [List.forall_mem_cons]
    refine .after ((TypeExpr.ofSchema_harmless schema).weaken fun _ => And.left) fun _ _ => ?_
    exact (ih.weaken fun _ => And.right).last fun _ _ => ⟨_, rfl⟩

theorem models_harmless (document : Entries) :
    Harmless (document.Keeps ·) (Model.ofDocument document) := by
  refine .after (.ensureWritable fun keeps key member => ?_) fun _ _ => ?_
  · obtain ⟨entry, present, rfl⟩ := List.mem_map.mp member
    exact (Entries.keeps_iff.mp (schemaEntries_keep keeps) entry present).1
  · refine (ofSchemas_harmless _).weaken fun limit keeps schema member => ?_
    obtain ⟨source, written, same⟩ := mem_of_mem_collapse member
    obtain ⟨entry, present, rfl⟩ := List.mem_map.mp written
    exact same ▸ (Entries.keeps_iff.mp (schemaEntries_keep keeps) entry present).2

theorem compile_judged (mapping : (Entries.field document "paths").entries? = some entries)
    (header : List String) :
    Judged (document.Keeps ·) (FirstFault (entries.filterMap Document.pathEntry?))
      (compile document header) := by
  have paths : Document.paths document = .ok (entries.filterMap Document.pathEntry?) := by
    rw [Document.paths, mapping]
  have read := (contributions_judged (entries.filterMap Document.pathEntry?)).weaken
    fun _ (keeps : document.Keeps _) => pathItems_keep keeps mapping
  unfold compile
  rw [paths]
  exact (models_harmless document).after fun _ _ => read.last fun _ _ => ⟨_, rfl⟩

theorem compile_eq_noPaths {document : Entries} {header : List String} :
    compile document header = .error .noPaths ↔ (Entries.field document "paths").entries? = none := by
  cases mapping : (Entries.field document "paths").entries? with
  | none =>
    have paths : Document.paths document = .error .noPaths := by rw [Document.paths, mapping]
    unfold compile
    rw [paths]
    exact iff_of_true rfl rfl
  | some entries =>
    refine iff_of_false (fun failed => ?_) (by simp)
    have judged := compile_judged mapping header
    rw [failed] at judged
    rcases judged with fault | ⟨limit, other, _⟩
    · obtain ⟨_, _, ⟨⟩⟩ := fault.exists_faults
    · cases limit <;> cases other

/-- A document that is within a limit everywhere does not meet it. -/
theorem compile_ne_cause {document : Entries} (keeps : document.Keeps limit) (header : List String) :
    compile document header ≠ .error limit.cause := by
  intro failed
  cases mapping : (Entries.field document "paths").entries? with
  | none =>
    have other := Except.error.inj ((compile_eq_noPaths.mpr mapping).symm.trans failed)
    cases limit <;> cases other
  | some entries =>
    have judged := compile_judged mapping header
    rw [failed] at judged
    rcases judged with fault | ⟨met, same, exceeded⟩
    · obtain ⟨_, _, fault⟩ := fault.exists_faults
      cases limit <;> cases fault
    · exact exceeded (Limit.cause_injective same ▸ keeps)

/-- Compiling fails for want of paths exactly when they are no mapping. Otherwise the first path item at
fault decides, and when there is none compiling succeeds, unless a limit is met: an integer has too many
digits to be written, or a collection that holds itself is followed without end. No document meets a limit
that it keeps everywhere. -/
theorem compile_outcome (document : Entries) (header : List String) :
    (compile document header = .error .noPaths ↔ (Entries.field document "paths").entries? = none) ∧
    (∀ entries, (Entries.field document "paths").entries? = some entries →
      (∀ limit : Limit, compile document header ≠ .error limit.cause) →
        (∀ cause, compile document header = .error cause ↔
          FirstFault (entries.filterMap Document.pathEntry?) cause) ∧
        ((∃ client, compile document header = .ok client) ↔
          ∀ one ∈ entries.filterMap Document.pathEntry?, Sound one.1 one.2)) ∧
    (∀ limit, document.Keeps limit → compile document header ≠ .error limit.cause) := by
  refine ⟨compile_eq_noPaths, ?_, fun limit keeps => compile_ne_cause keeps header⟩
  intro entries mapping unlimited
  have judged := compile_judged mapping header
  cases outcome : compile document header with
  | ok client =>
    have none := judged.sound outcome
    refine ⟨fun cause => iff_of_false (by simp) (none cause), iff_of_true ⟨client, rfl⟩ ?_⟩
    intro one member cause fault
    obtain ⟨first, firstFault⟩ := exists_firstFault member fault
    exact none first firstFault
  | error cause =>
    rw [outcome] at judged unlimited
    have first : FirstFault (entries.filterMap Document.pathEntry?) cause :=
      judged.resolve_right fun ⟨limit, same, _⟩ => unlimited limit (same ▸ rfl)
    refine ⟨fun other => ⟨?_, ?_⟩, iff_of_false (by simp) fun sound => ?_⟩
    · rintro ⟨⟩
      exact first
    · intro fault
      rw [first.unique fault]
    · obtain ⟨one, member, fault⟩ := first.exists_faults
      exact sound one member cause fault

/-- A parameter object whose place is a list. -/
def listedPlace : Value :=
  .mapping [(.text "name", .text "id"), (.text "in", .list [.text "path"])]

/-- A document whose second path is at fault for a parameter object that its operation supersedes. The
third path is at fault for a key. -/
def misplacedDocument : Entries :=
  let operation := [(.text "operationId", .text "UserController_get"),
    (.text "parameters", .list [listedPlace])]
  [(.text "paths", .mapping [
    (.text "/users", .mapping [(.text "x-owner", .text "accounts"), (.text "get", .mapping [])]),
    (.text "/users/{id}", .mapping [(.text "parameters", .list [listedPlace]),
      (.text "get", .mapping operation)]),
    (.text "/orders", .mapping [(.text "trace", .mapping [])])])]

theorem compile_outcome_misplaced :
    (∀ limit, misplacedDocument.Keeps limit) ∧
      compile misplacedDocument [] = .error .compositePlace := by
  have keeps (limit : Limit) : misplacedDocument.Keeps limit := by
    cases limit <;> decide +kernel
  obtain ⟨_, outcome, unlimited⟩ := compile_outcome misplacedDocument []
  refine ⟨keeps, ((outcome _ rfl fun limit => unlimited limit (keeps limit)).1 _).mpr
    (.later ?_ (.here ?_))⟩
  · exact (contribution_judged _ _).sound rfl
  · exact .compositePlace (by decide +kernel) (by decide) (List.mem_cons_of_mem _ List.mem_cons_self) rfl
      ⟨listedPlace, List.mem_cons_self, _, rfl, rfl⟩

/-- A document whose only operation has a response under an integer of too many digits to be written. -/
def hugeStatusDocument : Entries :=
  let operation := [(.text "operationId", .text "Things_get"),
    (.text "responses", .mapping [(.int Value.unwritableFrom, .mapping [])])]
  [(.text "paths", .mapping [(.text "/things", .mapping [(.text "get", .mapping operation)])])]

theorem compile_hugeStatus : ∃ entries,
    (Entries.field hugeStatusDocument "paths").entries? = some entries ∧
      (∀ one ∈ entries.filterMap Document.pathEntry?, Sound one.1 one.2) ∧
      compile hugeStatusDocument [] = .error .unwritable := by
  have evaluated : (match compile hugeStatusDocument [] with
      | .ok _ => none
      | .error cause => some cause) = some .unwritable := by decide +kernel
  refine ⟨_, rfl, ?_, ?_⟩
  · intro one only cause fault
    cases List.mem_singleton.mp only
    cases fault with
    | unknownKeys unknown => exact absurd unknown (by decide +kernel)
    | compositePlace _ _ declared mapping misplaced =>
      cases List.mem_singleton.mp declared
      cases mapping
      obtain ⟨_, ⟨⟩, _⟩ := misplaced
  · cases outcome : compile hugeStatusDocument [] with
    | ok client => simp [outcome] at evaluated
    | error cause => simpa [outcome] using evaluated

/-- The schema of lists whose items are such lists again. -/
def nestedListSchema : Value :=
  .knot ⟨0, 0, #[.mapping [(.text "type", 1), (.text "items", 0)], .plain (.text "array")]⟩

/-- A document without operations whose only component schema is this one. -/
def nestedListDocument : Entries :=
  [(.text "paths", .mapping []),
    (.text "components", .mapping [(.text "schemas", .mapping [(.text "List", nestedListSchema)])])]

/-- No path item is at fault, and yet the document is not compiled. -/
example : Document.pathItems nestedListDocument = [] ∧
    compile nestedListDocument [] = .error .endless := by
  constructor <;> rfl

end Client

end TypedClient
