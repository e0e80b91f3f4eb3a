import TypedClient.Proofs.Judged
import TypedClient.Proofs.Levels

/-!
Types of schemas. The type of a schema is made from the types of the schemas it holds. A schema has no type
only when one of its texts cannot be written or when it stands inside itself.
-/

namespace TypedClient.TypeExpr

/-- The schemas that a schema holds; those that are missing are null. -/
def nestedSchemas (schema : Value) : List Value :=
  match schema.entries? with
  | none => []
  | some entries =>
    let properties := (Entries.field entries "properties").entries?.getD []
    Entries.field entries "items" :: properties.map (·.2)

theorem field_eq_null_or_mem {schema : Value} (found : schema.entries? = some entries) (name : String) :
    Entries.field entries name = .null ∨ Entries.field entries name ∈ schema.members := by
  rw [Value.members_of_entries? found]
  unfold Entries.field Entries.get?
  cases present : entries.find? fun entry => entry.1.isText name with
  | none => exact .inl rfl
  | some entry =>
    exact .inr (List.mem_append_right _ (List.mem_map_of_mem (List.mem_of_find?_eq_some present)))

/-- A nested schema is missing, or it stands in the schema, maybe one collection further in. -/
theorem nestedSchemas_cases {schema inner : Value} (nested : inner ∈ nestedSchemas schema) :
    inner = .null ∨ inner ∈ schema.members ∨
      ∃ properties ∈ schema.members, inner ∈ properties.members := by
  unfold nestedSchemas at nested
  split at nested
  · cases nested
  · rename_i entries found
    rcases List.mem_cons.mp nested with rfl | inProperties
    · exact (field_eq_null_or_mem found "items").imp_right .inl
    · cases propertiesFound : (Entries.field entries "properties").entries? with
      | none => simp [propertiesFound] at inProperties
      | some properties =>
        rw [propertiesFound] at inProperties
        refine .inr (.inr ⟨Entries.field entries "properties", ?_, ?_⟩)
        · refine (field_eq_null_or_mem found "properties").resolve_left fun missing => ?_
          rw [missing] at propertiesFound
          cases propertiesFound
        · rw [Value.members_of_entries? propertiesFound]
          exact List.mem_append_right _ inProperties

theorem mem_parts_of_nested {root schema inner : Value} (member : schema ∈ .null :: root.parts)
    (nested : inner ∈ nestedSchemas schema) : inner ∈ .null :: root.parts := by
  rcases List.mem_cons.mp member with rfl | isPart
  · cases nested
  rcases nestedSchemas_cases nested with rfl | inside | ⟨properties, inside, further⟩
  · exact List.mem_cons_self
  · exact List.mem_cons_of_mem _ (Value.mem_parts_of_members isPart inside)
  · exact List.mem_cons_of_mem _
      (Value.mem_parts_of_members (Value.mem_parts_of_members isPart inside) further)

theorem keeps_of_nested {schema inner : Value} (keeps : schema.Keeps limit)
    (nested : inner ∈ nestedSchemas schema) : inner.Keeps limit := by
  rcases nestedSchemas_cases nested with rfl | inside | ⟨properties, inside, further⟩
  · exact Value.keeps_null
  · exact keeps.member inside
  · exact (keeps.member inside).member further

/-! ### Levels -/

/-- Going down further levels does not change the result. -/
def isAnswer : Except CompileError α → Bool
  | .error .endless => false
  | _ => true

theorem eq_endless_of_not_isAnswer {result : Except CompileError α} (none : isAnswer result = false) :
    result = .error .endless := by
  unfold isAnswer at none
  split at none
  · rfl
  · cases none

theorem isAnswer_error (cause : CompileError) :
    isAnswer (.error cause : Except CompileError α) = isAnswer (.error cause : Except CompileError β) := by
  cases cause <;> rfl

/-- Steps that keep their answers make a computation that keeps its answer. -/
theorem bind_keeps {first second : Except CompileError α} {next other : α → Except CompileError β}
    (here : isAnswer first = true → second = first)
    (further : ∀ value, first = .ok value → isAnswer (next value) = true → other value = next value)
    (found : isAnswer (first >>= next) = true) : (second >>= other) = (first >>= next) := by
  cases first with
  | error cause =>
    rw [here ((isAnswer_error cause).trans found)]
    rfl
  | ok value =>
    rw [here rfl]
    exact further value rfl found

section

variable {first second : Value → Except CompileError TypeExpr}

theorem namedTypes_keeps {entries : Entries}
    (keeps : ∀ entry ∈ entries, isAnswer (first entry.2) = true → second entry.2 = first entry.2)
    (found : isAnswer (namedTypes first entries) = true) :
    namedTypes second entries = namedTypes first entries := by
  induction entries with
  | nil => rfl
  | cons entry rest ih =>
    obtain ⟨here, others⟩ := List.forall_mem_cons.mp keeps
    refine bind_keeps (fun _ => rfl) (fun _ _ found => ?_) found
    refine bind_keeps here (fun _ _ found => ?_) found
    exact bind_keeps (ih others) (fun _ _ _ => rfl) found

/-- Answers for the nested schemas that are kept make an answer for the schema that is kept. -/
theorem ofSchemaBy_keeps {schema : Value}
    (keeps : ∀ inner ∈ nestedSchemas schema, isAnswer (first inner) = true → second inner = first inner)
    (found : isAnswer (ofSchemaBy first schema) = true) :
    ofSchemaBy second schema = ofSchemaBy first schema := by
  unfold nestedSchemas at keeps
  unfold ofSchemaBy at found ⊢
  split
  · rfl
  · rename_i entries isMapping
    simp only [isMapping, List.mem_cons, forall_eq_or_imp, List.forall_mem_map] at keeps found
    split
    · rfl
    · rename_i isObject
      simp only [isObject] at found
      split
      · rfl
      · rename_i properties present
        simp only [present, Option.getD_some] at found keeps
        exact bind_keeps (namedTypes_keeps keeps.2) (fun _ _ _ => rfl) found
    · rename_i isArray
      simp only [isArray] at found
      exact bind_keeps keeps.1 (fun _ _ _ => rfl) found
    · rfl
    · rfl

theorem ofSchemaBy_congr {schema : Value}
    (agree : ∀ inner ∈ nestedSchemas schema, first inner = second inner) :
    ofSchemaBy first schema = ofSchemaBy second schema := by
  cases found : isAnswer (ofSchemaBy first schema) with
  | true => exact (ofSchemaBy_keeps (fun inner nested _ => (agree inner nested).symm) found).symm
  | false =>
    cases other : isAnswer (ofSchemaBy second schema) with
    | true => exact ofSchemaBy_keeps (fun inner nested _ => agree inner nested) other
    | false => rw [eq_endless_of_not_isAnswer found, eq_endless_of_not_isAnswer other]

end

theorem ofSchemaWithin_succ {schema : Value} (found : isAnswer (ofSchemaWithin levels schema) = true) :
    ofSchemaWithin (levels + 1) schema = ofSchemaWithin levels schema := by
  induction levels generalizing schema with
  | zero => cases found
  | succ levels ih => exact ofSchemaBy_keeps (fun _ _ => ih) found

theorem gradual_ofSchemaWithin (root : Value) :
    Levels.Gradual ofSchemaWithin isAnswer (.null :: root.parts) where
  keeps _ _ := ofSchemaWithin_succ
  changes _ _ none stillNone := by
    rw [eq_endless_of_not_isAnswer none, eq_endless_of_not_isAnswer stillNone]
  follows _ _ agree _ member :=
    ofSchemaBy_congr fun inner nested => agree inner (mem_parts_of_nested member nested)

theorem ofSchemaWithin_eq {root schema : Value} (member : schema ∈ .null :: root.parts)
    (enough : root.parts.length + 1 ≤ levels) : ofSchemaWithin levels schema = ofSchema schema := by
  have inRoot := (gradual_ofSchemaWithin root).run_eq enough member
  -- Both numbers of levels are compared with one that is enough for either value.
  have onMore : ofSchemaWithin (levels + schema.parts.length + 1) schema =
      ofSchemaWithin (root.parts.length + 1) schema :=
    (gradual_ofSchemaWithin root).run_eq (Nat.le_trans enough (by omega)) member
  have inSchema : ofSchemaWithin (levels + schema.parts.length + 1) schema = ofSchema schema :=
    (gradual_ofSchemaWithin schema).run_eq (by rw [List.length_cons]; omega)
      (List.mem_cons_of_mem _ (Value.mem_parts_self schema))
  rw [inRoot, ← inSchema, onMore]
  rfl

/-- The type of a schema is made from the types of the schemas it holds. -/
theorem ofSchema_eq (schema : Value) : ofSchema schema = ofSchemaBy ofSchema schema := by
  have self : schema ∈ .null :: schema.parts := List.mem_cons_of_mem _ (Value.mem_parts_self schema)
  rw [← ofSchemaWithin_eq self (Nat.le_succ _)]
  exact ofSchemaBy_congr fun inner nested =>
    ofSchemaWithin_eq (mem_parts_of_nested self nested) (Nat.le_refl _)

/-- A schema is followed without end when no number of levels is enough for it. -/
theorem ofSchema_eq_endless_iff {schema : Value} :
    ofSchema schema = .error .endless ↔ ∀ levels, ofSchemaWithin levels schema = .error .endless := by
  constructor
  · intro endless levels
    refine eq_endless_of_not_isAnswer (Bool.eq_false_iff.mpr fun found => ?_)
    have same : ofSchema schema = ofSchemaWithin levels schema :=
      (gradual_ofSchemaWithin schema).run_eq_of_ne
        (List.mem_cons_of_mem _ (Value.mem_parts_self schema)) found
    rw [← same, endless] at found
    cases found
  · exact fun never => never _

/-! ### Schemas without a type -/

variable {respected : Limit → Prop} {inner : Value → Except CompileError TypeExpr}

theorem namedTypes_harmless {entries : Entries}
    (digits : respected .digits → ∀ entry ∈ entries, entry.1.Keeps .digits)
    (nested : ∀ entry ∈ entries, Harmless respected (inner entry.2)) :
    Harmless respected (namedTypes inner entries) := by
  induction entries with
  | nil => exact .harmless_ok []
  | cons entry rest ih =>
    obtain ⟨here, others⟩ := List.forall_mem_cons.mp nested
    refine .after (.ensureWritable fun holds key member => ?_) fun _ _ => ?_
    · exact List.mem_singleton.mp member ▸ digits holds entry List.mem_cons_self
    · refine .after here fun _ _ => .last (ih ?_ others) fun _ _ => ⟨_, rfl⟩
      exact fun holds entry member => digits holds entry (List.mem_cons_of_mem _ member)

theorem ofSchemaBy_harmless {schema : Value} (digits : respected .digits → schema.Keeps .digits)
    (nested : ∀ part ∈ nestedSchemas schema, Harmless respected (inner part)) :
    Harmless respected (ofSchemaBy inner schema) := by
  unfold nestedSchemas at nested
  unfold ofSchemaBy
  split
  · exact .harmless_ok _
  · rename_i entries isMapping
    simp only [isMapping, List.mem_cons, forall_eq_or_imp, List.forall_mem_map] at nested
    have keeps (holds : respected .digits) : entries.Keeps .digits := (digits holds).entries? isMapping
    split
    · exact .harmless_ok _
    · split
      · exact .harmless_ok _
      · rename_i properties present
        simp only [present, Option.getD_some] at nested
        refine .last (namedTypes_harmless (fun holds entry member => ?_) nested.2) fun _ _ => ⟨_, rfl⟩
        exact (Entries.keeps_iff.mp (((keeps holds).field "properties").entries? present) entry member).1
    · exact .last nested.1 fun _ _ => ⟨_, rfl⟩
    · refine .last (.ensureWritable fun holds value member => ?_) fun _ _ => ⟨_, rfl⟩
      unfold enumValues at member
      cases present : (Entries.field entries "enum").items? with
      | none => simp [present] at member
      | some items =>
        rw [present] at member
        exact ((keeps holds).field "enum").items? present value member
    · refine .last (.ensureWritable fun holds value member => ?_) fun _ _ => ⟨_, rfl⟩
      exact List.mem_singleton.mp member ▸ (keeps holds).field "type"

theorem ofSchemaWithin_harmless (levels : Nat) (schema : Value) :
    Harmless (fun limit => limit = .digits ∧ schema.Keeps .digits) (ofSchemaWithin levels schema) := by
  induction levels generalizing schema with
  | zero => exact .inr ⟨.depth, rfl, fun holds => by cases holds.1⟩
  | succ levels ih =>
    refine ofSchemaBy_harmless And.right fun part nested => (ih part).weaken fun _ holds => ?_
    exact ⟨holds.1, keeps_of_nested holds.2 nested⟩

theorem length_parts_lt_of_nested {schema inner : Value} (tree : schema.IsTree)
    (nested : inner ∈ nestedSchemas schema) :
    inner = .null ∨ inner.IsTree ∧ inner.parts.length < schema.parts.length := by
  rcases nestedSchemas_cases nested with rfl | inside | ⟨properties, inside, further⟩
  · exact .inl rfl
  · exact .inr ⟨tree.members inside, Value.length_parts_lt tree.outside inside⟩
  · have between := tree.members inside
    refine .inr ⟨between.members further, ?_⟩
    exact Nat.lt_trans (Value.length_parts_lt between.outside further)
      (Value.length_parts_lt tree.outside inside)

/-- A schema has a type when its integers can be written and it does not stand inside itself. -/
theorem ofSchema_harmless (schema : Value) : Harmless (schema.Keeps ·) (ofSchema schema) := by
  by_cases depth : schema.Keeps .depth
  · induction size : schema.parts.length using Nat.strongRecOn generalizing schema with
    | ind size ih =>
      rw [ofSchema_eq]
      refine ofSchemaBy_harmless id fun part nested => ?_
      rcases length_parts_lt_of_nested (Value.isTree_of_keeps depth) nested with rfl | ⟨tree, smaller⟩
      · exact .harmless_ok _
      · refine (ih _ (size ▸ smaller) part (keeps_of_nested depth nested) rfl).weaken fun _ holds => ?_
        exact keeps_of_nested holds nested
  · refine (ofSchemaWithin_harmless _ schema).weaken fun limit holds => ?_
    cases limit with
    | digits => exact ⟨rfl, holds⟩
    | depth => exact absurd holds depth

end TypedClient.TypeExpr
