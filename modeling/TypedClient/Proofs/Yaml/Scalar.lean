import TypedClient.Proofs.Number.Rounding
import TypedClient.Proofs.Outcome
import TypedClient.Proofs.Value.Proper
import TypedClient.Yaml.Scalar

namespace TypedClient

namespace Numeral

theorem isCanonical_readUnsigned? (found : readUnsigned? negative chars = some x) : x.IsCanonical := by
  unfold readUnsigned? at found
  dsimp only [Option.bind_eq_bind] at found
  split at found
  all_goals
    split at found
    · cases found
    · obtain ⟨exponent, _, whole⟩ := Option.bind_eq_some_iff.mp found
      cases whole
      exact Binary64.isCanonical_ofDecimal _ _ _

theorem isCanonical_readFloat? (found : readFloat? chars = some x) : x.IsCanonical := by
  unfold readFloat? at found
  dsimp only at found
  split at found
  · cases found
    trivial
  · split at found
    · cases found
      trivial
    · exact isCanonical_readUnsigned? found

end Numeral

namespace Yaml.Scalar

theorem isCanonical_sumOfSixtieths (canonical : sum.IsCanonical) (weight : Nat)
    (found : sumOfSixtieths sum weight places = .ok total) : total.IsCanonical := by
  induction places generalizing sum weight with
  | nil =>
    cases found
    exact canonical
  | cons place places ih =>
    rw [sumOfSixtieths] at found
    split at found
    · cases found
    · exact ih (Binary64.isCanonical_add _ _) _ found

theorem isCanonical_floatMagnitude (found : floatMagnitude digits = .ok x) : x.IsCanonical := by
  unfold floatMagnitude at found
  split at found
  · cases found
    trivial
  · split at found
    · cases found
      trivial
    · split at found
      · split at found
        · exact isCanonical_sumOfSixtieths (Binary64.isCanonical_signedZero false) 1 found
        · cases found
      · split at found
        · rename_i read
          cases found
          exact Numeral.isCanonical_readFloat? read
        · cases found

theorem isProper_float {atom : Atom} (found : float place text = .ok atom) : atom.IsProper := by
  unfold float at found
  dsimp only at found
  split at found
  · cases found
  · obtain ⟨x, magnitude, whole⟩ := Outcome.bind_eq_ok.mp found
    have canonical := isCanonical_floatMagnitude magnitude
    have marked : (if isNotANumber (Numeral.splitSign (dropUnderscores text)).2 then x
        else x.withPayload (place + 1)).IsCanonical := by
      split
      · exact canonical
      · exact canonical.withPayload _
    cases whole
    split
    · exact marked.negate
    · exact marked

theorem isProper_stamp {atom : Atom} (found : stamp text = .ok atom) : atom.IsProper := by
  unfold stamp at found
  split at found
  · cases found
  · split at found
    · rename_i written _ isStamp
      cases found
      obtain ⟨date, _, whole⟩ := Option.bind_eq_some_iff.mp isStamp
      split at whole
      · cases whole
        trivial
      · obtain ⟨moment, _, whole⟩ := Option.bind_eq_some_iff.mp whole
        cases whole
        trivial
    · cases found

/-- The numbers among the values of scalars are canonical. -/
theorem isProper_value {atom : Atom} (found : Scalar.value place tag text = .ok atom) :
    atom.IsProper := by
  unfold Scalar.value at found
  split at found
  · cases found
    trivial
  · unfold truth at found
    split at found <;> cases found
    trivial
  · unfold integer at found
    dsimp only at found
    split at found
    · cases found
    · split at found <;> cases found
      trivial
  · exact isProper_float found
  · cases found
    trivial
  · exact isProper_stamp found
  · unfold binary at found
    split at found
    · split at found <;> cases found
      trivial
    · cases found
  all_goals cases found

end Yaml.Scalar

end TypedClient
