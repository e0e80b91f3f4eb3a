namespace TypedClient.Outcome

theorem bind_eq_ok {step : Except ε α} {next : α → Except ε β} {result : β} :
    (step >>= next) = .ok result ↔ ∃ value, step = .ok value ∧ next value = .ok result := by
  cases step with
  | error cause =>
    constructor
    · intro success
      cases success
    · rintro ⟨value, success, _⟩
      cases success
  | ok value =>
    constructor
    · intro success
      exact ⟨value, rfl, success⟩
    · rintro ⟨other, same, success⟩
      cases same
      exact success

theorem bind_eq_error {step : Except ε α} {next : α → Except ε β} {cause : ε} :
    (step >>= next) = .error cause ↔
      step = .error cause ∨ ∃ value, step = .ok value ∧ next value = .error cause := by
  cases step <;> simp [bind, Except.bind]

theorem pure_eq_ok {value result : α} :
    (pure value : Except ε α) = .ok result ↔ value = result := by
  constructor
  · exact Except.ok.inj
  · rintro rfl
    rfl

theorem mapError_eq_ok {step : Except ε α} {adapt : ε → η} :
    step.mapError adapt = .ok result ↔ step = .ok result := by
  cases step with
  | error cause =>
    have failed : (Except.error cause : Except ε α).mapError adapt = .error (adapt cause) := rfl
    simp [failed]
  | ok value =>
    have kept : (Except.ok value).mapError adapt = .ok value := rfl
    simp [kept]

/-- The result is a failure of some kind. -/
def Fails (kind : ε → Prop) (result : Except ε α) : Prop :=
  ∃ cause, result = .error cause ∧ kind cause

theorem fails_error {kind : ε → Prop} : Fails kind (.error cause : Except ε α) ↔ kind cause := by
  simp [Fails]

theorem fails_bind {kind : ε → Prop} {step : Except ε α} {next : α → Except ε β} :
    Fails kind (step >>= next) ↔ Fails kind step ∨ ∃ value, step = .ok value ∧ Fails kind (next value) := by
  cases step <;> simp [Fails, bind, Except.bind]

theorem fails_mapError {kind : η → Prop} {step : Except ε α} {adapt : ε → η} :
    Fails kind (step.mapError adapt) ↔ Fails (fun cause => kind (adapt cause)) step := by
  cases step with
  | error cause =>
    have failed : (Except.error cause : Except ε α).mapError adapt = .error (adapt cause) := rfl
    rw [failed, fails_error, fails_error]
  | ok value =>
    have kept : (Except.ok value : Except ε α).mapError adapt = .ok value := rfl
    simp [Fails, kept]

theorem map_toOption_eq_some {step : Except ε α} {read : α → β} :
    step.toOption.map read = some seen ↔ ∃ value, step = .ok value ∧ read value = seen := by
  cases step <;> simp [Except.toOption]

end TypedClient.Outcome
