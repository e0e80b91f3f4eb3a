import TypedClient.Proofs.Operation.Content
import TypedClient.Proofs.Operation.Extract
import TypedClient.Proofs.Operation.Merging

namespace TypedClient

/-- Only a list or a mapping equals a list or a mapping. -/
theorem Value.isComposite_of_same? {value other : Value} (equal : same? value other = some true)
    (composite : value.isComposite = true) : other.isComposite = true := by
  unfold same? at equal
  cases levels : 2 * (value.parts.length * other.parts.length) with
  | zero =>
    rw [levels] at equal
    cases equal
  | succ levels =>
    rw [levels, sameWithin, sameBy] at equal
    split at equal
    · rename_i identical
      exact (isIdentical_iff.mp identical).1 ▸ composite
    · unfold isComposite at composite ⊢
      split at equal
      · rename_i otherIsList
        simp [otherIsList]
      · rename_i otherIsMapping
        simp [otherIsMapping]
      · rename_i isSet _
        simp [isSet] at composite
      · rename_i isPair _
        simp [isPair] at composite
      · cases opened : value.opened with
        | list | mapping => simp [opened, sameScalar, asInt?] at equal
        | _ => simp [opened] at composite

namespace Parameter

/-- The place of a parameter object is a list or a mapping. -/
def IsMisplaced (entries : Entries) : Prop :=
  (Entries.field entries "in").isComposite = true

/-- Some parameter object among values is misplaced. -/
def Misplaced (values : List Value) : Prop :=
  ∃ value ∈ values, ∃ entries, value.entries? = some entries ∧ IsMisplaced entries

theorem misplaced_append {values others : List Value} :
    Misplaced (values ++ others) ↔
      (∃ entries ∈ values.filterMap Value.entries?, IsMisplaced entries) ∨
        ∃ entries ∈ others.filterMap Value.entries?, IsMisplaced entries := by
  have each (list : List Value) : (∃ entries ∈ list.filterMap Value.entries?, IsMisplaced entries) ↔
      Misplaced list := by
    simp only [List.mem_filterMap, Misplaced]
    constructor
    · rintro ⟨entries, ⟨value, member, found⟩, misplaced⟩
      exact ⟨value, member, entries, found, misplaced⟩
    · rintro ⟨value, member, entries, found, misplaced⟩
      exact ⟨entries, ⟨value, member, found⟩, misplaced⟩
  rw [each, each]
  simp only [Misplaced, List.mem_append, or_and_right, exists_or]

theorem isMisplaced_of_sameKey (equal : sameKey existing parameter = true)
    (misplaced : IsMisplaced existing) : IsMisplaced parameter :=
  Value.isComposite_of_same? (sameKey_iff.mp equal).2 misplaced

/-- A parameter object that is superseded was misplaced only if its successor is. -/
theorem exists_mem_substitute {parameter : Entries} {merged : List Entries} :
    (∃ entries ∈ substitute parameter merged, IsMisplaced entries) ↔
      IsMisplaced parameter ∨ ∃ entries ∈ merged, IsMisplaced entries := by
  induction merged with
  | nil => simp [substitute]
  | cons existing rest ih =>
    by_cases equal : sameKey existing parameter = true
    · -- What is replaced has an equal place, so no fault is lost with it.
      have absorbed : IsMisplaced existing → IsMisplaced parameter := isMisplaced_of_sameKey equal
      simp only [substitute, if_pos equal, List.mem_cons, exists_eq_or_imp]
      grind
    · simp only [substitute, if_neg equal, List.mem_cons, exists_eq_or_imp, ih]
      grind

theorem exists_mem_overlay {pathLevel operationLevel : List Value} :
    (∃ entries ∈ overlay (objects pathLevel) (objects operationLevel), IsMisplaced entries) ↔
      Misplaced (pathLevel ++ operationLevel) := by
  have general (parameters merged : List Entries) :
      (∃ entries ∈ overlay merged parameters, IsMisplaced entries) ↔
        (∃ entries ∈ merged, IsMisplaced entries) ∨ ∃ entries ∈ parameters, IsMisplaced entries := by
    induction parameters generalizing merged with
    | nil => simp [overlay]
    | cons parameter rest ih =>
      have step : overlay merged (parameter :: rest) = overlay (substitute parameter merged) rest := rfl
      simp only [step, ih, exists_mem_substitute, List.mem_cons, exists_eq_or_imp]
      grind
  rw [general, misplaced_append]
  rfl

/-- Merging makes no parameter objects of its own. -/
theorem mem_of_mem_overlay {pathLevel operationLevel : List Value}
    (member : entries ∈ overlay (objects pathLevel) (objects operationLevel)) :
    ∃ value ∈ pathLevel ++ operationLevel, value.entries? = some entries := by
  have general (parameters merged : List Entries) (member : entries ∈ overlay merged parameters) :
      entries ∈ merged ∨ entries ∈ parameters := by
    induction parameters generalizing merged with
    | nil => exact .inl member
    | cons parameter rest ih =>
      rcases ih _ member with earlier | later
      · exact (mem_of_mem_substitute earlier).elim (fun here => .inr (here ▸ List.mem_cons_self)) .inl
      · exact .inr (List.mem_cons_of_mem parameter later)
  rcases general _ _ member with declared | declared
  all_goals
    obtain ⟨value, present, found⟩ := List.mem_filterMap.mp declared
    exact ⟨value, by simp [present], found⟩

theorem merge_harmless (pathLevel operationLevel : List Value) :
    Harmless (fun limit => ∀ value ∈ pathLevel ++ operationLevel, value.Keeps limit)
      (merge pathLevel operationLevel) := by
  rcases merge_cases pathLevel operationLevel with result | ⟨failed, existing, _, parameter, own, never⟩
  · exact result ▸ .harmless_ok _
  · rw [failed]
    refine .inr ⟨.depth, rfl, fun keeps => ?_⟩
    obtain ⟨value, member, found⟩ := List.mem_filterMap.mp own
    have fields := (keeps value (List.mem_append_right _ member)).entries? found
    have tree : HasTreeKey parameter :=
      ⟨Value.isTree_of_keeps (fields.field "name"), Value.isTree_of_keeps (fields.field "in")⟩
    have compared := isSome_sameKey? (a := existing) (.inr tree)
    rw [never] at compared
    cases compared

theorem declaredType_harmless (entries : Entries) : Harmless (entries.Keeps ·) (declaredType entries) := by
  unfold declaredType schema?
  cases found : (Entries.field entries "schema").entries? with
  | none => exact .harmless_ok _
  | some schema =>
    exact Content.ofSchema_harmless_of_entries fun limit keeps => (keeps.field "schema").entries? found

theorem read_judged (entries : Entries) :
    Judged (entries.Keeps ·) (fun cause => cause = .compositePlace ∧ IsMisplaced entries)
      (read entries) := by
  unfold read
  refine .after (.ensureWritable fun keeps value member => ?_) fun _ _ => ?_
  · exact List.mem_singleton.mp member ▸ keeps.field "name"
  by_cases misplaced : (Entries.field entries "in").isComposite = true
  · rw [if_pos misplaced]
    exact .inl ⟨rfl, misplaced⟩
  · rw [if_neg misplaced]
    have sound : ∀ cause, ¬(cause = CompileError.compositePlace ∧ IsMisplaced entries) :=
      fun _ fault => misplaced fault.2
    split
    · exact .after (declaredType_harmless entries) fun _ _ => sound
    · refine .after (.ensureWritable fun keeps value member => ?_) fun _ _ => sound
      exact List.mem_singleton.mp member ▸ keeps.field "in"

theorem readAll_judged (parameters : List Entries) :
    Judged (fun limit => ∀ entries ∈ parameters, entries.Keeps limit)
      (fun cause => cause = .compositePlace ∧ ∃ entries ∈ parameters, IsMisplaced entries)
      (readAll parameters) := by
  induction parameters with
  | nil => exact fun _ fault => by simpa using fault.2
  | cons entries rest ih =>
    unfold readAll
    simp only [List.forall_mem_cons]
    refine (((read_judged entries).weaken fun _ => And.left).bind fun one _ =>
      (ih.weaken fun _ => And.right).last fun read _ => ?_).congr fun cause => ?_
    · cases one <;> exact ⟨_, rfl⟩
    · simp only [List.mem_cons, exists_eq_or_imp, ← and_or_left]

end Parameter

namespace Operation

theorem fieldItems_keeps {entries : Entries} (keeps : entries.Keeps limit) :
    ∀ value ∈ fieldItems entries name, value.Keeps limit := by
  unfold fieldItems
  cases found : (Entries.field entries name).items? with
  | none => simp
  | some items => exact (keeps.field name).items? found

/-- An operation object can be read unless a parameter object that it or its path declares is
misplaced. -/
theorem extract_judged (rawPath httpMethod : String) (entries : Entries) (pathParameters : List Value) :
    Judged (fun limit => entries.Keeps limit ∧ ∀ value ∈ pathParameters, value.Keeps limit)
      (fun cause => cause = .compositePlace ∧
        Parameter.Misplaced (pathParameters ++ fieldItems entries "parameters"))
      (extract rawPath httpMethod entries pathParameters) := by
  have all (limit : Limit) (keeps : entries.Keeps limit ∧ ∀ value ∈ pathParameters, value.Keeps limit) :
      ∀ value ∈ pathParameters ++ fieldItems entries "parameters", value.Keeps limit :=
    List.forall_mem_append.mpr ⟨keeps.2, fieldItems_keeps keeps.1⟩
  refine .after ((Parameter.merge_harmless _ _).weaken all) fun merged isMerged => ?_
  obtain rfl := Parameter.eq_overlay_of_merge isMerged
  have parameters := (Parameter.readAll_judged
    (Parameter.overlay (Parameter.objects pathParameters)
      (Parameter.objects (fieldItems entries "parameters")))).weaken
    fun limit (keeps : entries.Keeps limit ∧ ∀ value ∈ pathParameters, value.Keeps limit) each member => by
      obtain ⟨value, declared, found⟩ := Parameter.mem_of_mem_overlay member
      exact (all limit keeps value declared).entries? found
  simp only [Parameter.exists_mem_overlay] at parameters
  refine parameters.andThen (fun _ => id) fun _ success => ?_
  refine .after ((Content.ofRequest_harmless entries).weaken fun _ => And.left) fun _ _ => ?_
  exact .after ((Content.ofResponses_harmless entries).weaken fun _ => And.left) fun _ _ =>
    parameters.sound success

end Operation

end TypedClient
