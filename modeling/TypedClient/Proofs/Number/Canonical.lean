import Mathlib.Algebra.Order.Group.Nat
import Mathlib.Tactic.Ring
import TypedClient.Number.Binary64

/-!
Canonical floating-point numbers. A finite number is written in one way, with a significand of 53 bits
or at the least exponent; so two of them that are one integer are one number, zeros of either sign
apart.
-/

namespace TypedClient.Binary64

/-- The significand has 53 bits, or fewer when the exponent is the least one. -/
def IsCanonical : Binary64 → Prop
  | .finite _ significand exponent =>
    significand < 2 ^ 53 ∧ leastExponent ≤ exponent ∧
      (2 ^ 52 ≤ significand ∨ exponent = leastExponent)
  | .infinite _ | .notANumber _ => True

/-- A number that is an integer has its magnitude as the significand, scaled by the exponent. -/
theorem exists_of_toInt? (found : toInt? (.finite negative m e) = some value) :
    ∃ size : Nat, m * 2 ^ e.toNat = size * 2 ^ (-e).toNat ∧
      value = if negative then -(size : Int) else size := by
  cases e with
  | ofNat e =>
    refine ⟨m * 2 ^ e, by simp, ?_⟩
    simpa [toInt?] using found.symm
  | negSucc e =>
    simp only [toInt?, Option.ite_none_right_eq_some, Option.some.injEq] at found
    obtain ⟨divides, rfl⟩ := found
    refine ⟨m / 2 ^ (e + 1), ?_, rfl⟩
    have scaled := Nat.div_mul_cancel (Nat.dvd_of_mod_eq_zero divides)
    simpa [Int.neg_negSucc] using scaled.symm

/-- Of two canonical numbers of one magnitude neither has the smaller exponent. -/
theorem exponent_le_of_sameSize {m n size : Nat} {e f : Int}
    (first : IsCanonical (.finite s m e)) (second : IsCanonical (.finite t n f))
    (firstSize : m * 2 ^ e.toNat = size * 2 ^ (-e).toNat)
    (secondSize : n * 2 ^ f.toNat = size * 2 ^ (-f).toNat) : f ≤ e := by
  apply Int.not_lt.mp
  intro smaller
  obtain ⟨gap, gapPositive, rfl⟩ : ∃ gap : Nat, 0 < gap ∧ f = e + gap :=
    ⟨(f - e).toNat, by omega, by omega⟩
  -- Both significands over the lesser exponent: the first is a multiple of the second.
  have powers : e.toNat + (-(e + gap)).toNat + gap = (e + gap).toNat + (-e).toNat := by omega
  have aligned : m * 2 ^ (e.toNat + (-(e + gap)).toNat) =
      n * 2 ^ gap * 2 ^ (e.toNat + (-(e + gap)).toNat) := by
    calc m * 2 ^ (e.toNat + (-(e + gap)).toNat)
        = m * 2 ^ e.toNat * 2 ^ (-(e + gap)).toNat := by rw [pow_add, mul_assoc]
      _ = size * 2 ^ (-(e + gap)).toNat * 2 ^ (-e).toNat := by rw [firstSize, mul_right_comm]
      _ = n * 2 ^ ((e + gap).toNat + (-e).toNat) := by rw [← secondSize, mul_assoc, pow_add]
      _ = n * 2 ^ gap * 2 ^ (e.toNat + (-(e + gap)).toNat) := by rw [← powers, pow_add]; ring
  have multiple : m = n * 2 ^ gap := Nat.eq_of_mul_eq_mul_right (Nat.two_pow_pos _) aligned
  have full : 2 ^ 52 ≤ n := second.2.2.resolve_right (by have := first.2.1; omega)
  have doubled : 2 ^ 1 ≤ 2 ^ gap := Nat.pow_le_pow_right (by decide) gapPositive
  have tooLarge : 2 ^ 52 * 2 ^ 1 ≤ m := multiple ▸ Nat.mul_le_mul full doubled
  exact absurd first.1 (by omega)

theorem sameValue_of_toInt? {x y : Binary64} (first : x.IsCanonical) (second : y.IsCanonical)
    (whole : x.toInt? = some value) (same : y.toInt? = some value) : x.sameValue y = true := by
  cases x with
  | infinite | notANumber => cases whole
  | finite s m e =>
    cases y with
    | infinite | notANumber => cases same
    | finite t n f =>
      obtain ⟨size, firstSize, spelled⟩ := exists_of_toInt? whole
      obtain ⟨otherSize, secondSize, again⟩ := exists_of_toInt? same
      obtain rfl : otherSize = size := by
        rw [spelled] at again
        split at again <;> split at again <;> omega
      by_cases zero : otherSize = 0
      · have noFirst : m = 0 := by simpa [zero] using firstSize
        have noSecond : n = 0 := by simpa [zero] using secondSize
        simp [sameValue, isZero, noFirst, noSecond]
      · obtain rfl : e = f := Int.le_antisymm
          (exponent_le_of_sameSize second first secondSize firstSize)
          (exponent_le_of_sameSize first second firstSize secondSize)
        obtain rfl : m = n :=
          Nat.eq_of_mul_eq_mul_right (Nat.two_pow_pos _) (firstSize.trans secondSize.symm)
        have signs : s = t := by
          rw [spelled] at again
          cases s <;> cases t <;> simp only [Bool.false_eq_true, ↓reduceIte, reduceCtorEq] at again ⊢ <;> omega
        simp [sameValue, signs]

theorem toInt?_of_isZero {x : Binary64} (zero : x.isZero = true) : x.toInt? = some 0 := by
  cases x with
  | infinite | notANumber => cases zero
  | finite s m e =>
    obtain rfl : m = 0 := by simpa [isZero] using zero
    cases e <;> simp [toInt?]

theorem toInt?_of_sameValue {x y : Binary64} (same : x.sameValue y = true) : x.toInt? = y.toInt? := by
  rcases Bool.or_eq_true_iff.mp same with equal | zeros
  · rw [of_decide_eq_true equal]
  · obtain ⟨first, second⟩ := Bool.and_eq_true_iff.mp zeros
    rw [toInt?_of_isZero first, toInt?_of_isZero second]

/-- Two numbers that are no integers are equal only if they are one number. -/
theorem eq_of_sameValue {x y : Binary64} (same : x.sameValue y = true) (fractional : x.toInt? = none) :
    x = y := by
  rcases Bool.or_eq_true_iff.mp same with equal | zeros
  · exact of_decide_eq_true equal
  · rw [toInt?_of_isZero (Bool.and_eq_true_iff.mp zeros).1] at fractional
    cases fractional

end TypedClient.Binary64
