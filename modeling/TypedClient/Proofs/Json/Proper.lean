import TypedClient.Json.Reader
import TypedClient.Proofs.Number.Rounding
import TypedClient.Proofs.Outcome
import TypedClient.Proofs.Value.Equality

namespace TypedClient

namespace Json

/-- A member of an object: a text and a proper value. -/
def IsMember (member : Value × Value) : Prop :=
  (∃ name, member.1 = .text name) ∧ member.2.IsProper

theorem isProper_ofPairs {members : List (Value × Value)} (each : ∀ member ∈ members, IsMember member) :
    (Value.mapping (Entries.ofPairs members)).IsProper := by
  rw [Value.IsProper, Value.entriesAreProper_iff]
  have texts (key : Value) (member : key ∈ members.map (·.1)) : ∃ name, key = .text name := by
    obtain ⟨entry, present, rfl⟩ := List.mem_map.mp member
    exact (each entry present).1
  constructor
  · apply Value.distinctKeys_collapse
    intro key member
    obtain ⟨name, rfl⟩ := texts key member
    rfl
  · intro entry member
    obtain ⟨source, present, same⟩ := mem_of_mem_collapse member
    obtain ⟨name, isText⟩ :=
      texts entry.1 ((keys_collapse Value.sameScalar members).1 _ (List.mem_map_of_mem member))
    refine ⟨?_, same ▸ (each source present).2⟩
    rw [isText]
    trivial

theorem isProper_numberOf (found : numberOf negative whole fraction exponent = some value) :
    value.IsProper := by
  unfold numberOf at found
  split at found
  · split at found
    · cases found
    · cases found
      trivial
  · cases found
    exact Binary64.isCanonical_ofDecimal _ _ _

theorem isProper_readNumber (read : readNumber chars = .ok result) : result.value.IsProper := by
  unfold readNumber at read
  dsimp only at read
  split at read
  · cases read
  · split at read
    · cases read
    · rename_i found
      cases read
      exact isProper_numberOf found

theorem isProper_literal (member : literal ∈ literals) : literal.2.IsProper := by
  simp only [literals, List.mem_cons, List.not_mem_nil, or_false] at member
  rcases member with rfl | rfl | rfl | rfl | rfl | rfl <;> trivial

theorem value_wordAt? (found : wordAt? word value chars = some result) : result.value = value := by
  unfold wordAt? at found
  split at found
  · cases found
  · split at found
    · cases found
      rfl
    · cases found

theorem length_behind {chars : List Char} (spelled : skipBlanks chars = c :: behind) :
    (skipBlanks behind).length < chars.length := by
  have front := skipBlanks_length_le chars
  have back := skipBlanks_length_le behind
  rw [spelled, List.length_cons] at front
  omega

mutual

theorem isProper_readValue {chars : List Char} {result : Read Value chars}
    (read : readValue chars = .ok result) : result.value.IsProper := by
  rw [readValue.eq_def] at read
  split at read
  · obtain ⟨text, _, whole⟩ := Outcome.bind_eq_ok.mp read
    cases whole
    trivial
  · rename_i rest
    have blanks := skipBlanks_length_le rest
    split at read
    · cases read
      exact ⟨⟨by simp, by simp⟩, trivial⟩
    · obtain ⟨members, membersRead, whole⟩ := Outcome.bind_eq_ok.mp read
      cases whole
      exact isProper_ofPairs (isMember_readMembers membersRead)
  · rename_i rest
    have blanks := skipBlanks_length_le rest
    split at read
    · cases read
      trivial
    · obtain ⟨items, itemsRead, whole⟩ := Outcome.bind_eq_ok.mp read
      cases whole
      exact Value.areProper_iff.mpr (isProper_readItems itemsRead)
  · split at read
    · rename_i found
      cases read
      obtain ⟨literal, member, isWord⟩ := List.exists_of_findSome?_eq_some found
      rw [value_wordAt? isWord]
      exact isProper_literal member
    · exact isProper_readNumber read
termination_by 2 * chars.length
decreasing_by
  all_goals
    subst_vars
    simp only [List.length_cons]
    omega

theorem isMember_readMembers {chars : List Char} {result : Read (List (Value × Value)) chars}
    (read : readMembers chars = .ok result) : ∀ member ∈ result.value, IsMember member := by
  rw [readMembers.eq_def] at read
  split at read
  · simp only [Outcome.bind_eq_ok] at read
    obtain ⟨name, _, read⟩ := read
    have nameShorter := name.shorter
    split at read
    · rename_i colon
      have behindColon := length_behind colon
      obtain ⟨value, valueRead, read⟩ := Outcome.bind_eq_ok.mp read
      have valueShorter := value.shorter
      have first : IsMember (.text name.value, value.value) := ⟨⟨_, rfl⟩, isProper_readValue valueRead⟩
      split at read
      · cases read
        exact List.forall_mem_singleton.mpr first
      · rename_i comma
        have behindComma := length_behind comma
        obtain ⟨others, othersRead, whole⟩ := Outcome.bind_eq_ok.mp read
        cases whole
        exact List.forall_mem_cons.mpr ⟨first, isMember_readMembers othersRead⟩
      · cases read
    · cases read
  · cases read
termination_by 2 * chars.length
decreasing_by
  all_goals
    subst_vars
    simp only [List.length_cons]
    omega

theorem isProper_readItems {chars : List Char} {result : Read (List Value) chars}
    (read : readItems chars = .ok result) : ∀ item ∈ result.value, item.IsProper := by
  rw [readItems.eq_def] at read
  obtain ⟨value, valueRead, read⟩ := Outcome.bind_eq_ok.mp read
  have valueShorter := value.shorter
  have first := isProper_readValue valueRead
  dsimp only at read
  split at read
  · cases read
    exact List.forall_mem_singleton.mpr first
  · rename_i comma
    have behindComma := length_behind comma
    obtain ⟨others, othersRead, whole⟩ := Outcome.bind_eq_ok.mp read
    cases whole
    exact List.forall_mem_cons.mpr ⟨first, isProper_readItems othersRead⟩
  · cases read
termination_by 2 * chars.length + 1
decreasing_by
  all_goals omega

end

/-- The value of a JSON text is proper. -/
theorem isProper_read {text : String} (found : read text = .ok value) : value.IsProper := by
  have document := Outcome.mapError_eq_ok.mp found
  unfold readDocument at document
  split at document
  · cases document
  · obtain ⟨result, valueRead, whole⟩ := Outcome.bind_eq_ok.mp document
    split at whole
    · cases whole
      exact isProper_readValue valueRead
    · cases whole

end Json

end TypedClient
