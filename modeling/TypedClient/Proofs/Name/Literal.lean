import Mathlib.Data.List.Basic
import TypedClient.Name.Literal

namespace TypedClient.Literal

/-- Reads a string literal behind its opening apostrophe: its text and what follows the literal. An
escape stands for a backslash or an apostrophe; of other characters only some may stand for
themselves. -/
def readString (standsRaw : Char → Bool) : List Char → Option (List Char × List Char)
  | [] => none
  | '\x27' :: rest => some ([], rest)
  | '\\' :: c :: rest =>
    if c = '\\' ∨ c = '\x27' then (readString standsRaw rest).map fun (text, after) => (c :: text, after)
    else none
  | c :: rest =>
    if standsRaw c then (readString standsRaw rest).map fun (text, after) => (c :: text, after)
    else none

theorem readString_escape (raw : standsRaw c) (rest : List Char) :
    readString standsRaw (escape c ++ rest) =
      (readString standsRaw rest).map fun (text, after) => (c :: text, after) := by
  unfold escape
  split
  · rename_i escaped
    simp [readString, escaped]
  · rename_i plain
    obtain ⟨noBackslash, noApostrophe⟩ := not_or.mp plain
    rw [List.cons_append, List.nil_append, readString.eq_def]
    split <;> simp_all

theorem readString_flatMap (text rest : List Char) (raw : ∀ c ∈ text, standsRaw c) :
    readString standsRaw (text.flatMap escape ++ '\x27' :: rest) = some (text, rest) := by
  induction text with
  | nil => rfl
  | cons c text ih =>
    have rawRest : ∀ other ∈ text, standsRaw other :=
      fun other member => raw other (List.mem_cons_of_mem c member)
    rw [List.flatMap_cons, List.append_assoc, readString_escape (raw c List.mem_cons_self),
      ih rawRest]
    rfl

/-- A literal is read exactly when all characters of its text may stand for themselves, where these
include what is escaped. -/
theorem readString_flatMap_eq (backslash : standsRaw '\\' = true) (quote : standsRaw '\x27' = true)
    (text rest : List Char) : readString standsRaw (text.flatMap escape ++ '\x27' :: rest) =
      if text.all standsRaw then some (text, rest) else none := by
  induction text with
  | nil => rfl
  | cons c text ih =>
    rw [List.flatMap_cons, List.append_assoc]
    by_cases raw : standsRaw c = true
    · rw [readString_escape raw, ih, List.all_cons, raw, Bool.true_and]
      split <;> rfl
    · have plain : ¬(c = '\\' ∨ c = '\x27') := by
        intro escaped
        rcases escaped with rfl | rfl
        · exact raw backslash
        · exact raw quote
      obtain ⟨noBackslash, noApostrophe⟩ := not_or.mp plain
      rw [escape, if_neg plain, List.cons_append, List.nil_append, readString.eq_def]
      split <;> simp_all

theorem toList_string (s : String) :
    (string s).toList = '\x27' :: s.toList.flatMap escape ++ ['\x27'] := by
  simp [string]

theorem string_ne_self (s : String) : string s ≠ s := by
  have longer (chars : List Char) : chars.length ≤ (chars.flatMap escape).length := by
    induction chars with
    | nil => exact Nat.le_refl 0
    | cons c rest ih =>
      have one : 1 ≤ (escape c).length := by
        unfold escape
        split <;> simp
      rw [List.flatMap_cons, List.length_append, List.length_cons]
      omega
  intro same
  have lengths := congrArg (·.toList.length) same
  have shorter := longer s.toList
  simp only [toList_string, List.length_append, List.length_cons] at lengths
  omega

theorem mem_string (member : c ∈ (string s).toList) : c = '\x27' ∨ c = '\\' ∨ c ∈ s.toList := by
  rw [toList_string, List.cons_append, List.mem_cons, List.mem_append, List.mem_singleton,
    List.mem_flatMap] at member
  rcases member with quote | ⟨other, present, inside⟩ | quote
  · exact .inl quote
  · unfold escape at inside
    split at inside
    · rcases List.mem_cons.mp inside with backslash | same
      · exact .inr (.inl backslash)
      · exact .inr (.inr (List.mem_singleton.mp same ▸ present))
    · exact .inr (.inr (List.mem_singleton.mp inside ▸ present))
  · exact .inl quote

theorem mem_propertyKey (member : c ∈ (propertyKey name).toList) :
    c = '\x27' ∨ c = '\\' ∨ c ∈ name.toList := by
  unfold propertyKey at member
  split at member
  · exact .inr (.inr member)
  · exact mem_string member

/-- A property name without quotes is an identifier, or one with a line feed behind it. -/
theorem isBareKey_cases (bare : isBareKey name = true) :
    Identifier.isIdentifier name.toList = true ∨
      ∃ word, name.toList = word ++ ['\n'] ∧ Identifier.isIdentifier word = true := by
  rcases Bool.or_eq_true_iff.mp bare with whole | followed
  · exact .inl whole
  · obtain ⟨lineFeed, identifier⟩ := Bool.and_eq_true_iff.mp followed
    have last := List.dropLast_append_getLast? '\n' (beq_iff_eq.mp lineFeed)
    exact .inr ⟨name.toList.dropLast, last.symm, identifier⟩

end TypedClient.Literal
