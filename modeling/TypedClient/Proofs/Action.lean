/-!
Actions that can fail and leave a state behind in any case. A relation between the state that is found
and the state that is left passes from the steps of an action to the whole of it.
-/

namespace TypedClient.Action

/-! ### Results of steps -/

section

variable {action : EStateM ε σ α} {next : α → EStateM ε σ β} {state after : σ}

theorem bind_eq_ok : (action >>= next) state = .ok result after ↔
    ∃ value middle, action state = .ok value middle ∧ next value middle = .ok result after := by
  change EStateM.bind action next state = _ ↔ _
  unfold EStateM.bind
  cases action state <;> simp [and_assoc]

theorem bind_eq_error : (action >>= next) state = .error cause after ↔
    action state = .error cause after ∨
      ∃ value middle, action state = .ok value middle ∧ next value middle = .error cause after := by
  change EStateM.bind action next state = _ ↔ _
  unfold EStateM.bind
  cases action state <;> simp [and_assoc]

theorem get_bind_apply (next : σ → EStateM ε σ α) (state : σ) :
    (get >>= next) state = next state state :=
  rfl

theorem set_apply (state other : σ) : (set other : EStateM ε σ PUnit) state = .ok () other :=
  rfl

theorem throw_apply (cause : ε) (state : σ) :
    (throw cause : EStateM ε σ α) state = .error cause state :=
  rfl

theorem tryCatch_eq_ok {handler : ε → EStateM ε σ α} :
    tryCatch action handler state = .ok value after ↔
      action state = .ok value after ∨
        ∃ cause middle, action state = .error cause middle ∧ handler cause middle = .ok value after := by
  change EStateM.tryCatch action handler state = _ ↔ _
  unfold EStateM.tryCatch
  cases action state with
  | ok result middle => simp
  | error cause middle =>
    change handler cause middle = .ok value after ↔ _
    simp [and_assoc]

theorem tryCatch_eq_error {handler : ε → EStateM ε σ α} :
    tryCatch action handler state = .error cause after ↔
      ∃ inner middle, action state = .error inner middle ∧ handler inner middle = .error cause after := by
  change EStateM.tryCatch action handler state = _ ↔ _
  unfold EStateM.tryCatch
  cases action state with
  | ok result middle => simp
  | error inner middle =>
    change handler inner middle = .error cause after ↔ _
    simp [and_assoc]

theorem adaptExcept_eq_ok {adapt : ε → η} : EStateM.adaptExcept adapt action state = .ok value after ↔
    action state = .ok value after := by
  unfold EStateM.adaptExcept
  cases action state <;> simp

theorem adaptExcept_eq_error {adapt : ε → η} :
    EStateM.adaptExcept adapt action state = .error cause after ↔
      ∃ inner, action state = .error inner after ∧ adapt inner = cause := by
  unfold EStateM.adaptExcept
  cases action state <;> simp [and_assoc, and_comm]

end

/-- The result is a value, and it and the state are of some kind. -/
def succeedsWith (holds : α → σ → Bool) : EStateM.Result ε σ α → Bool
  | .ok value state => holds value state
  | .error _ _ => false

theorem exists_of_succeedsWith {result : EStateM.Result ε σ α}
    (success : succeedsWith holds result = true) :
    ∃ value state, result = .ok value state ∧ holds value state = true := by
  cases result with
  | ok value state => exact ⟨value, state, rfl, success⟩
  | error cause state => cases success

/-- The result is a failure, and its cause and the state are of some kind. -/
def failsWith (holds : ε → σ → Bool) : EStateM.Result ε σ α → Bool
  | .ok _ _ => false
  | .error cause state => holds cause state

theorem exists_of_failsWith {result : EStateM.Result ε σ α}
    (failure : failsWith holds result = true) :
    ∃ cause state, result = .error cause state ∧ holds cause state = true := by
  cases result with
  | ok value state => cases failure
  | error cause state => exact ⟨cause, state, rfl, failure⟩

/-! ### States before and after -/

/-- The state that is left, whether or not an action failed. -/
def stateOf : EStateM.Result ε σ α → σ
  | .ok _ state | .error _ state => state

/-- Whatever comes of an action, the state that it leaves is related to the state that it found. -/
def Within (relation : σ → σ → Prop) (action : EStateM ε σ α) : Prop :=
  ∀ state, relation state (stateOf (action state))

variable {relation : σ → σ → Prop}

theorem Within.mono {larger : σ → σ → Prop} {action : EStateM ε σ α} (within : Within relation action)
    (included : ∀ before after, relation before after → larger before after) :
    Within larger action :=
  fun state => included state _ (within state)

theorem Within.of_ok {action : EStateM ε σ α} (within : Within relation action)
    (success : action before = .ok value after) : relation before after := by
  have reached := within before
  rwa [success] at reached

theorem Within.of_error {action : EStateM ε σ α} (within : Within relation action)
    (failure : action before = .error cause after) : relation before after := by
  have reached := within before
  rwa [failure] at reached

theorem within_pure (refl : ∀ state, relation state state) (value : α) :
    Within relation (pure value : EStateM ε σ α) :=
  fun state => refl state

theorem within_throw (refl : ∀ state, relation state state) (cause : ε) :
    Within relation (throw cause : EStateM ε σ α) :=
  fun state => refl state

section

variable (trans : ∀ {first second third}, relation first second → relation second third →
  relation first third)

include trans

theorem Within.bind {action : EStateM ε σ α} {next : α → EStateM ε σ β}
    (first : Within relation action) (rest : ∀ value, Within relation (next value)) :
    Within relation (action >>= next) := by
  intro state
  change relation state (stateOf (EStateM.bind action next state))
  unfold EStateM.bind
  cases result : action state with
  | ok value middle => exact trans (first.of_ok result) (rest value middle)
  | error cause middle => exact first.of_error result

/-- What an action did before it failed stays, so the handler goes on from there. -/
theorem Within.tryCatch {action : EStateM ε σ α} {handler : ε → EStateM ε σ α}
    (first : Within relation action) (rest : ∀ cause, Within relation (handler cause)) :
    Within relation (tryCatch action handler) := by
  intro state
  change relation state (stateOf (EStateM.tryCatch action handler state))
  unfold EStateM.tryCatch
  cases result : action state with
  | ok value middle => exact first.of_ok result
  | error cause middle => exact trans (first.of_error result) (rest cause middle)

end

theorem Within.get_bind {next : σ → EStateM ε σ α} (rest : ∀ state, Within relation (next state)) :
    Within relation (get >>= next) :=
  fun state => rest state state

theorem Within.adaptExcept {action : EStateM ε σ α} (within : Within relation action) (adapt : ε → η) :
    Within relation (EStateM.adaptExcept adapt action) := by
  intro state
  unfold EStateM.adaptExcept
  cases result : action state with
  | ok value after => exact within.of_ok result
  | error cause after => exact within.of_error result

end TypedClient.Action
