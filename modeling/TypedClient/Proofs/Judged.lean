import TypedClient.Proofs.Value.Limits

/-!
What is at fault with a part of a document that is not compiled. Apart from the faults of the document
itself there are the limits of compiling, which keep it from going on only where they are met.
-/

namespace TypedClient

/-- A result tells what is at fault: a value that nothing is, and a cause that it is. The cause may be a
limit instead, unless it is respected. -/
def Judged (respected : Limit → Prop) (faults : CompileError → Prop) : Except CompileError α → Prop
  | .ok _ => ∀ cause, ¬faults cause
  | .error cause => faults cause ∨ ∃ limit, cause = limit.cause ∧ ¬respected limit

/-- Only a limit may keep a step from succeeding. -/
abbrev Harmless (respected : Limit → Prop) (result : Except CompileError α) : Prop :=
  Judged respected (fun _ => False) result

namespace Judged

variable {respected : Limit → Prop} {faults further : CompileError → Prop}

theorem sound {result : Except CompileError α} (judged : Judged respected faults result)
    (success : result = .ok value) : ∀ cause, ¬faults cause := by
  rw [success] at judged
  exact judged

theorem congr {result : Except CompileError α} (judged : Judged respected faults result)
    (same : ∀ cause, faults cause ↔ further cause) : Judged respected further result := by
  cases result with
  | ok value => exact fun cause fault => judged cause ((same cause).mpr fault)
  | error cause => exact judged.imp (same cause).mp id

/-- A step comes first: its faults are faults of the whole, and the rest counts once it succeeds. -/
theorem andThen {step : Except CompileError α} {next : α → Except CompileError β}
    (first : Judged respected faults step) (raised : ∀ cause, faults cause → further cause)
    (rest : ∀ value, step = .ok value → Judged respected further (next value)) :
    Judged respected further (step >>= next) := by
  cases step with
  | error cause => exact first.imp (raised cause) id
  | ok value => exact rest value rfl

theorem bind {step : Except CompileError α} {next : α → Except CompileError β}
    (first : Judged respected faults step)
    (rest : ∀ value, step = .ok value → Judged respected further (next value)) :
    Judged respected (fun cause => faults cause ∨ further cause) (step >>= next) :=
  first.andThen (fun _ => .inl) fun value success => (rest value success).congr fun cause =>
    (or_iff_right (first.sound success cause)).symm

/-- A harmless step adds no fault. -/
theorem after {step : Except CompileError α} {next : α → Except CompileError β}
    (first : Harmless respected step)
    (rest : ∀ value, step = .ok value → Judged respected faults (next value)) :
    Judged respected faults (step >>= next) :=
  first.andThen (fun _ => False.elim) rest

/-- What is only put together from results adds no fault. -/
theorem last {step : Except CompileError α} {next : α → Except CompileError β}
    (first : Judged respected faults step)
    (rest : ∀ value, step = .ok value → ∃ answer, next value = .ok answer) :
    Judged respected faults (step >>= next) := by
  refine first.andThen (fun _ => id) fun value success => ?_
  obtain ⟨answer, made⟩ := rest value success
  rw [made]
  exact first.sound success

theorem weaken {more : Limit → Prop} {result : Except CompileError α}
    (judged : Judged respected faults result) (enough : ∀ limit, more limit → respected limit) :
    Judged more faults result := by
  cases result with
  | ok value => exact judged
  | error cause =>
    exact judged.imp_right fun ⟨limit, same, met⟩ => ⟨limit, same, fun holds => met (enough limit holds)⟩

theorem harmless_ok (value : α) : Harmless respected (.ok value) :=
  fun _ => id

theorem ensureWritable {values : List Value}
    (enough : respected .digits → ∀ value ∈ values, value.Keeps .digits) :
    Harmless respected (ensureWritable values) := by
  unfold TypedClient.ensureWritable
  split
  · exact harmless_ok ()
  · rename_i unwritable
    refine .inr ⟨.digits, rfl, fun holds => unwritable (List.all_eq_true.mpr fun value member => ?_)⟩
    exact (enough holds value member).isWritable

end Judged

end TypedClient
