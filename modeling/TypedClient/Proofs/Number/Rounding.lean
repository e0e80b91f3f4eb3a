import TypedClient.Proofs.Number.Canonical

/-!
Rounded numbers are canonical. A fraction is rounded at the exponent that gives its quotient 53 bits, or
at the least one when the quotient has fewer bits there; where rounding reaches the next power of two,
the exponent is one more.
-/

namespace TypedClient.Binary64

/-- The fraction has at most so many bits in front of the point when it is scaled to an exponent. -/
def Fits (bits num den : Nat) (exponent : Int) : Prop :=
  num * 2 ^ (-exponent).toNat < 2 ^ bits * (den * 2 ^ exponent.toNat)

theorem dividedByPower_eq (num den : Nat) (exponent : Int) :
    dividedByPower num den exponent = (num * 2 ^ (-exponent).toNat, den * 2 ^ exponent.toNat) := by
  cases exponent with
  | ofNat e => simp [dividedByPower]
  | negSucc e => simp [dividedByPower, Int.neg_negSucc]

/-- A greater exponent takes bits away. -/
theorem fits_add (bits num den more : Nat) (exponent : Int) :
    Fits (bits + more) num den exponent ↔ Fits bits num den (exponent + more) := by
  have scales : (-exponent).toNat + (exponent + more).toNat =
      (-(exponent + more)).toNat + (exponent.toNat + more) := by omega
  have first : 0 < 2 ^ (exponent + more).toNat := Nat.two_pow_pos _
  have second : 0 < 2 ^ (exponent.toNat + more) := Nat.two_pow_pos _
  rw [Fits, Fits, ← Nat.mul_lt_mul_right first, mul_assoc num, ← pow_add, scales, pow_add, ← mul_assoc,
    show 2 ^ (bits + more) * (den * 2 ^ exponent.toNat) * 2 ^ (exponent + more).toNat =
      2 ^ bits * (den * 2 ^ (exponent + more).toNat) * 2 ^ (exponent.toNat + more) by ring,
    Nat.mul_lt_mul_right second]

theorem Fits.mono (fits : Fits bits num den exponent) (more : Nat) :
    Fits (bits + more) num den exponent := by
  have wider : 2 ^ bits ≤ 2 ^ (bits + more) := Nat.pow_le_pow_right (by decide) (Nat.le_add_right _ _)
  exact Nat.lt_of_lt_of_le fits (Nat.mul_le_mul_right _ wider)

/-- The number of bits of a fraction is known up to one from those of its parts. -/
theorem fits_guess (numPositive : num ≠ 0) (denPositive : den ≠ 0) :
    Fits 54 num den ((num.log2 : Int) - den.log2 - 53) ∧
      ¬ Fits 52 num den ((num.log2 : Int) - den.log2 - 53) := by
  have numLow : 2 ^ num.log2 ≤ num := Nat.log2_self_le numPositive
  have denLow : 2 ^ den.log2 ≤ den := Nat.log2_self_le denPositive
  have numHigh : num < 2 ^ (num.log2 + 1) := Nat.lt_log2_self
  have denHigh : den < 2 ^ (den.log2 + 1) := Nat.lt_log2_self
  let guess : Int := (num.log2 : Int) - den.log2 - 53
  have balanced : num.log2 + (-guess).toNat = 53 + den.log2 + guess.toNat := by omega
  constructor
  · calc num * 2 ^ (-guess).toNat
        < 2 ^ (num.log2 + 1) * 2 ^ (-guess).toNat := Nat.mul_lt_mul_of_pos_right numHigh (Nat.two_pow_pos _)
      _ = 2 ^ (53 + den.log2 + guess.toNat + 1) := by rw [← balanced, ← pow_add]; ring
      _ = 2 ^ 54 * (2 ^ den.log2 * 2 ^ guess.toNat) := by ring
      _ ≤ 2 ^ 54 * (den * 2 ^ guess.toNat) :=
        Nat.mul_le_mul_left _ (Nat.mul_le_mul_right _ denLow)
  · apply Nat.not_lt.mpr
    calc 2 ^ 52 * (den * 2 ^ guess.toNat)
        ≤ 2 ^ 52 * (2 ^ (den.log2 + 1) * 2 ^ guess.toNat) :=
          Nat.mul_le_mul_left _ (Nat.mul_le_mul_right _ denHigh.le)
      _ = 2 ^ (53 + den.log2 + guess.toNat) := by ring
      _ = 2 ^ num.log2 * 2 ^ (-guess).toNat := by rw [← balanced, pow_add]
      _ ≤ num * 2 ^ (-guess).toNat := Nat.mul_le_mul_right _ numLow

theorem exists_exponentOf (numPositive : num ≠ 0) (denPositive : den ≠ 0) :
    ∃ full, exponentOf num den = max leastExponent full ∧ Fits 53 num den full ∧
      ¬ Fits 52 num den full := by
  obtain ⟨atMost, notLess⟩ := fits_guess numPositive denPositive
  have scaled : 0 < den * 2 ^ ((num.log2 : Int) - den.log2 - 53).toNat :=
    Nat.mul_pos (Nat.pos_of_ne_zero denPositive) (Nat.two_pow_pos _)
  simp only [exponentOf, dividedByPower_eq, Nat.div_lt_iff_lt_mul scaled, Nat.pow_eq]
  by_cases fits : Fits 53 num den ((num.log2 : Int) - den.log2 - 53)
  · exact ⟨_, congrArg (max leastExponent) (if_pos fits), fits, notLess⟩
  · refine ⟨_, congrArg (max leastExponent) (if_neg fits), ?_, ?_⟩
    · exact (fits_add 53 num den 1 _).mp atMost
    · exact mt (fits_add 52 num den 1 _).mpr fits

theorem fits_exponentOf (numPositive : num ≠ 0) (denPositive : den ≠ 0) :
    Fits 53 num den (exponentOf num den) ∧
      (¬ Fits 52 num den (exponentOf num den) ∨ exponentOf num den = leastExponent) := by
  obtain ⟨full, chosen, fits, full53⟩ := exists_exponentOf numPositive denPositive
  rw [chosen]
  rcases Int.le_total leastExponent full with inRange | below
  · rw [max_eq_right inRange]
    exact ⟨fits, .inl full53⟩
  · obtain ⟨more, same⟩ := Int.le.dest below
    rw [max_eq_left below]
    exact ⟨same ▸ (fits_add 53 num den more full).mp (fits.mono more), .inr rfl⟩

theorem roundedQuotient_le (fits : num < bound * den) : roundedQuotient num den ≤ bound := by
  have below : num / den < bound := Nat.div_lt_of_lt_mul (Nat.mul_comm bound den ▸ fits)
  unfold roundedQuotient
  dsimp only
  split <;> omega

theorem le_roundedQuotient (least : bound * den ≤ num) (positive : 0 < den) :
    bound ≤ roundedQuotient num den := by
  have below : bound ≤ num / den := (Nat.le_div_iff_mul_le positive).mpr least
  unfold roundedQuotient
  dsimp only
  split <;> omega

theorem isCanonical_signedZero (negative : Bool) : (signedZero negative).IsCanonical :=
  ⟨by decide, Int.le_refl _, .inr rfl⟩

theorem leastExponent_le_exponentOf (num den : Nat) : leastExponent ≤ exponentOf num den := by
  unfold exponentOf
  exact Int.le_max_left _ _

/-- The number nearest to a fraction is canonical. -/
theorem isCanonical_ofFraction (negative : Bool) (num : Nat) (positive : den ≠ 0) :
    (ofFraction negative num den).IsCanonical := by
  by_cases zero : num = 0
  · rw [ofFraction, if_pos zero]
    exact isCanonical_signedZero negative
  · obtain ⟨fits, full⟩ := fits_exponentOf zero positive
    have least := leastExponent_le_exponentOf num den
    have scaled : 0 < den * 2 ^ (exponentOf num den).toNat :=
      Nat.mul_pos (Nat.pos_of_ne_zero positive) (Nat.two_pow_pos _)
    have atMost := roundedQuotient_le fits
    have atLeast := full.imp_left fun notLess => le_roundedQuotient (Nat.not_lt.mp notLess) scaled
    simp only [ofFraction, if_neg zero, dividedByPower_eq]
    generalize roundedQuotient _ _ = rounded at atMost atLeast ⊢
    have power : Nat.pow 2 52 < 2 ^ 53 := by decide
    by_cases next : rounded = Nat.pow 2 53
    · rw [if_pos next]
      split
      · trivial
      · exact ⟨power, Int.le_add_one least, .inl (Nat.le_refl _)⟩
    · rw [if_neg next]
      split
      · trivial
      · exact ⟨Nat.lt_of_le_of_ne atMost next, least, atLeast⟩

theorem isCanonical_ofDyadic (negative : Bool) (significand : Nat) (exponent : Int) :
    (ofDyadic negative significand exponent).IsCanonical := by
  cases exponent with
  | ofNat e => exact isCanonical_ofFraction _ _ Nat.one_ne_zero
  | negSucc e => exact isCanonical_ofFraction _ _ (Nat.pos_iff_ne_zero.mp (Nat.two_pow_pos _))

theorem isCanonical_ofDecimal (negative : Bool) (digits : Nat) (exponent : Int) :
    (ofDecimal negative digits exponent).IsCanonical := by
  unfold ofDecimal
  dsimp only
  split
  · exact isCanonical_signedZero negative
  · split
    · trivial
    · cases exponent with
      | ofNat e => exact isCanonical_ofFraction _ _ Nat.one_ne_zero
      | negSucc e => exact isCanonical_ofFraction _ _ (Nat.pos_iff_ne_zero.mp (Nat.pow_pos (by decide)))

/-! ### Operations -/

theorem IsCanonical.negate {x : Binary64} (canonical : x.IsCanonical) : x.negate.IsCanonical := by
  cases x <;> exact canonical

theorem IsCanonical.withPayload {x : Binary64} (canonical : x.IsCanonical) (payload : Nat) :
    (x.withPayload payload).IsCanonical := by
  cases x <;> exact canonical

theorem isCanonical_add (x y : Binary64) : (x.add y).IsCanonical := by
  fun_cases add x y
  · exact isCanonical_signedZero _
  · exact isCanonical_ofDyadic _ _ _
  all_goals trivial

end TypedClient.Binary64
