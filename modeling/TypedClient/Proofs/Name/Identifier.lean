import TypedClient.Name.Identifier
import TypedClient.Proofs.Text.Characters

/-!
Identifiers in front of other characters and identifiers that are derived. The longest run of
identifier characters is the identifier when the character behind it is none of them. What is derived
from a text, whatever the text is, can name a variable.
-/

namespace TypedClient.Identifier

theorem isPart_of_isStart (start : isStart c = true) : isPart c = true := by
  simp [isPart, start]

theorem ne_of_isStart (start : isStart first = true) (other : isStart c = false) : first ≠ c := by
  rintro rfl
  exact Bool.eq_false_iff.mp other start

theorem isPart_of_mem (identifier : isIdentifier chars = true) (member : c ∈ chars) :
    isPart c = true := by
  cases chars with
  | nil => cases identifier
  | cons first rest =>
    obtain ⟨start, parts⟩ := Bool.and_eq_true_iff.mp identifier
    rcases List.mem_cons.mp member with here | there
    · exact here ▸ isPart_of_isStart start
    · exact List.all_eq_true.mp parts c there

theorem takeWhile_isPart (identifier : isIdentifier chars = true) (stops : isPart c = false)
    (rest : List Char) : (chars ++ c :: rest).takeWhile isPart = chars := by
  rw [List.takeWhile_append_of_pos fun _ member => isPart_of_mem identifier member]
  simp [stops]

theorem dropWhile_isPart (identifier : isIdentifier chars = true) (stops : isPart c = false)
    (rest : List Char) : (chars ++ c :: rest).dropWhile isPart = c :: rest := by
  rw [List.dropWhile_append_of_pos fun _ member => isPart_of_mem identifier member]
  simp [stops]

theorem exists_cons_of_isIdentifier (identifier : isIdentifier chars = true) :
    ∃ c rest, chars = c :: rest ∧ isStart c = true := by
  cases chars with
  | nil => cases identifier
  | cons c rest => exact ⟨c, rest, rfl, (Bool.and_eq_true_iff.mp identifier).1⟩

theorem isIdentifier_append (identifier : isIdentifier chars = true)
    (parts : ∀ c ∈ more, isPart c = true) : isIdentifier (chars ++ more) = true := by
  cases chars with
  | nil => cases identifier
  | cons first rest =>
    obtain ⟨start, restParts⟩ := Bool.and_eq_true_iff.mp identifier
    simpa [isIdentifier, start, restParts] using parts

theorem toNat_lt_of_isPart (part : isPart c = true) : c.toNat < 128 := by
  rcases Bool.or_eq_true_iff.mp part with start | digit
  · rcases Bool.or_eq_true_iff.mp start with wordStart | dollar
    · rcases Bool.or_eq_true_iff.mp wordStart with letter | underscore
      · rcases Bool.or_eq_true_iff.mp letter with upper | lower
        · exact Nat.lt_of_le_of_lt (of_decide_eq_true upper).2 (by decide)
        · exact Nat.lt_of_le_of_lt (of_decide_eq_true (Bool.and_eq_true_iff.mp lower).2) (by decide)
      · rw [beq_iff_eq.mp underscore]
        decide
    · rw [beq_iff_eq.mp dollar]
      decide
  · exact Nat.lt_of_le_of_lt (Char.isDigit_iff_toNat.mp digit).2 (by decide)

/-- What holds of all ASCII characters holds of every character of an identifier. -/
theorem of_isPart (holds : Char → Prop) (ascii : ∀ code < 128, holds (Char.ofNat code))
    (part : isPart c = true) : holds c := by
  have here := ascii c.toNat (toNat_lt_of_isPart part)
  rwa [Char.ofNat_toNat] at here

theorem isPart_toUpper (part : isPart c = true) : isPart c.toUpper = true := by
  have all : ∀ code < 128, isPart (Char.ofNat code) = true →
      isPart (Char.ofNat code).toUpper = true := by
    decide
  exact of_isPart (fun c => isPart c = true → isPart c.toUpper = true) all part part

theorem isPart_of_mem_capitalise (parts : ∀ c ∈ word, isPart c = true) (member : c ∈ capitalise word) :
    isPart c = true := by
  cases word with
  | nil => cases member
  | cons first rest =>
    rcases List.mem_cons.mp member with here | there
    · exact here ▸ isPart_toUpper (parts first List.mem_cons_self)
    · exact parts c (List.mem_cons_of_mem first there)

theorem isPart_of_mem_wordsOf (present : word ∈ wordsOf chars) (member : c ∈ word) :
    isPart c = true := by
  have separated := Text.not_separates_of_mem_piecesBy (List.mem_filter.mp present).1 member
  simpa using separated

theorem isIdentifier_guardStart (nonempty : chars ≠ []) (parts : ∀ c ∈ chars, isPart c = true) :
    isIdentifier (guardStart chars) = true := by
  cases chars with
  | nil => exact False.elim (nonempty rfl)
  | cons first rest =>
    have restParts : rest.all isPart = true :=
      List.all_eq_true.mpr fun c member => parts c (List.mem_cons_of_mem first member)
    have firstPart := parts first List.mem_cons_self
    by_cases digit : first.isDigit = true
    · simp [guardStart, digit, isIdentifier, isStart, firstPart, restParts]
    · have start : isStart first = true := by simpa [isPart, digit] using firstPart
      simp [guardStart, digit, isIdentifier, start, restParts]

/-- The characters that tell a name from every reserved word. -/
theorem not_isReserved_of_mem (member : c ∈ chars) (mark : c = '_' ∨ c = 'P') :
    isReserved chars = false := by
  have words : ∀ word ∈ reservedWords, '_' ∉ word.toList ∧ 'P' ∉ word.toList := by decide
  apply Bool.eq_false_iff.mpr
  intro reserved
  have marks := words _ (List.contains_iff_mem.mp reserved)
  rw [String.toList_ofList] at marks
  rcases mark with rfl | rfl
  · exact marks.1 member
  · exact marks.2 member

/-- The word can name a variable. -/
def IsVariable (name : String) : Prop :=
  isIdentifier name.toList = true ∧ isReserved name.toList = false

theorem guardReserved_valid (identifier : isIdentifier chars = true) :
    isIdentifier (guardReserved chars) = true ∧ isReserved (guardReserved chars) = false := by
  unfold guardReserved
  split
  · have underscore : ∀ c ∈ ['_'], isPart c = true := by simp [isPart, isStart]
    exact ⟨isIdentifier_append identifier underscore,
      not_isReserved_of_mem (c := '_') (by simp) (.inl rfl)⟩
  · rename_i free
    exact ⟨identifier, Bool.eq_false_iff.mpr free⟩

/-- From every text a name for a variable is derived. -/
theorem isVariable_derive (name : String) : IsVariable (derive name) := by
  unfold IsVariable derive deriveChars
  rw [String.toList_ofList]
  split
  · decide
  · rename_i first rest found
    have firstPresent : first ∈ wordsOf name.toList := found ▸ List.mem_cons_self
    apply guardReserved_valid
    apply isIdentifier_guardStart
    · have nonempty := (List.mem_filter.mp firstPresent).2
      intro empty
      simp_all
    · intro c member
      rcases List.mem_append.mp member with inFirst | inRest
      · exact isPart_of_mem_wordsOf firstPresent inFirst
      · obtain ⟨word, present, inWord⟩ := List.mem_flatMap.mp inRest
        have wordPresent : word ∈ wordsOf name.toList := found ▸ List.mem_cons_of_mem first present
        exact isPart_of_mem_capitalise (fun _ => isPart_of_mem_wordsOf wordPresent) inWord

end TypedClient.Identifier
