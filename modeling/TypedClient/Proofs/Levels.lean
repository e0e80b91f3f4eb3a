import Mathlib.Data.List.Basic

/-!
Computations that go down level by level. On each level some inputs have an answer already, which depends
on the answers of the level before. With finitely many inputs there is an answer after as many levels as
there are inputs, or never.
-/

namespace TypedClient.Levels

variable {run : Nat → α → β} {isAnswer : β → Bool} {inputs : List α}

/-- Level by level answers are kept, and how the inputs are answered depends on how they were answered
one level before. -/
structure Gradual (run : Nat → α → β) (isAnswer : β → Bool) (inputs : List α) : Prop where
  keeps : ∀ level input, isAnswer (run level input) = true → run (level + 1) input = run level input
  changes : ∀ level input, isAnswer (run level input) = false →
    isAnswer (run (level + 1) input) = false → run (level + 1) input = run level input
  follows : ∀ level other, (∀ input ∈ inputs, run level input = run other input) →
    ∀ input ∈ inputs, run (level + 1) input = run (other + 1) input

/-- The number of inputs that are answered on a level. -/
def answered (run : Nat → α → β) (isAnswer : β → Bool) (inputs : List α) (level : Nat) : Nat :=
  inputs.countP fun input => isAnswer (run level input)

theorem Gradual.answered_lt (gradual : Gradual run isAnswer inputs) (member : input ∈ inputs)
    (changed : run (level + 1) input ≠ run level input) :
    answered run isAnswer inputs level < answered run isAnswer inputs (level + 1) := by
  have before : isAnswer (run level input) = false :=
    Bool.eq_false_iff.mpr fun found => changed (gradual.keeps level input found)
  have after : isAnswer (run (level + 1) input) = true :=
    (Bool.not_eq_false _).mp fun none => changed (gradual.changes level input before none)
  have stays (other : α) (found : isAnswer (run level other) = true) :
      isAnswer (run (level + 1) other) = true := by
    rwa [gradual.keeps level other found]
  obtain ⟨front, back, rfl⟩ := List.append_of_mem member
  have inFront := List.countP_mono_left (l := front) fun other _ => stays other
  have inBack := List.countP_mono_left (l := back) fun other _ => stays other
  simp only [answered, List.countP_append, List.countP_cons, before, after]
  grind

/-- Among the levels up to the number of inputs there is one that changes nothing. -/
theorem Gradual.exists_stable (gradual : Gradual run isAnswer inputs) :
    ∃ level ≤ inputs.length, ∀ input ∈ inputs, run (level + 1) input = run level input := by
  by_contra never
  push Not at never
  have grows (level : Nat) (bound : level ≤ inputs.length + 1) :
      level ≤ answered run isAnswer inputs level := by
    induction level with
    | zero => exact Nat.zero_le _
    | succ level ih =>
      obtain ⟨input, member, changed⟩ := never level (by omega)
      exact Nat.lt_of_le_of_lt (ih (by omega)) (gradual.answered_lt member changed)
  have most : answered run isAnswer inputs (inputs.length + 1) ≤ inputs.length := List.countP_le_length
  have := grows (inputs.length + 1) (Nat.le_refl _)
  omega

/-- After as many levels as there are inputs nothing changes. -/
theorem Gradual.run_eq (gradual : Gradual run isAnswer inputs) (enough : inputs.length ≤ level)
    (member : input ∈ inputs) : run level input = run inputs.length input := by
  obtain ⟨stable, bound, same⟩ := gradual.exists_stable
  have onwards (steps : Nat) : ∀ input ∈ inputs, run (stable + steps) input = run stable input := by
    induction steps with
    | zero => exact fun _ _ => rfl
    | succ steps ih =>
      intro input member
      exact (gradual.follows (stable + steps) stable ih input member).trans (same input member)
  have first := onwards (level - stable) input member
  have second := onwards (inputs.length - stable) input member
  rw [Nat.add_sub_cancel' (Nat.le_trans bound enough)] at first
  rw [Nat.add_sub_cancel' bound] at second
  exact first.trans second.symm

/-- An answer that there is on some level is there after as many levels as there are inputs. -/
theorem Gradual.run_eq_of_ne (gradual : Gradual run isAnswer inputs) (member : input ∈ inputs)
    (found : isAnswer (run level input) = true) : run inputs.length input = run level input := by
  have onwards (steps : Nat) : run (level + steps) input = run level input := by
    induction steps with
    | zero => rfl
    | succ steps ih =>
      rw [← ih] at found ⊢
      exact gradual.keeps (level + steps) input found
  have late := gradual.run_eq (Nat.le_add_left inputs.length level) member
  rw [onwards inputs.length] at late
  exact late.symm

end TypedClient.Levels
