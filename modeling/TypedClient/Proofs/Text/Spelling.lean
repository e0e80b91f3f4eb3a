import TypedClient.Proofs.Text.Characters
import TypedClient.Text.Spelling

/-!
Spellings of texts. A spelling is read back as the text, so different texts have different spellings.
A text can be encoded exactly when it has no halves of pairs, and cutting a spelling at a character cuts
the text there.
-/

namespace TypedClient.Text

variable {chars : List Char}

theorem codePoints_cons {c : Char} (unmarked : c ≠ spellingMark) (rest : List Char) :
    codePoints (c :: rest) = .char c :: codePoints rest := by
  cases rest with
  | nil => rfl
  | cons d rest => rw [codePoints, if_neg unmarked]

theorem halfBehindMark?_ofNat (index : Fin 0x800) :
    halfBehindMark? (Char.ofNat (CodePoint.firstPrivate + index)) = some index := by
  have valid : (CodePoint.firstPrivate + index.val).isValidChar := by
    simp only [CodePoint.firstPrivate, Nat.isValidChar]
    omega
  have code : (Char.ofNat (CodePoint.firstPrivate + index)).toNat =
      CodePoint.firstPrivate + index := by
    rw [Char.ofNat, dif_pos valid]
    rfl
  rw [halfBehindMark?]
  simp [code]

/-- The spelling of a code point is read as this code point, whatever stands behind it. -/
theorem codePoints_spell_append (point : CodePoint) (rest : List Char) :
    codePoints (point.spell ++ rest) = point :: codePoints rest := by
  cases point with
  | char c =>
    rw [CodePoint.spell]
    split
    · rename_i marked
      simp [codePoints, marked]
    · rename_i unmarked
      exact codePoints_cons unmarked rest
  | half index =>
    have found := halfBehindMark?_ofNat index
    have unmarked : Char.ofNat (CodePoint.firstPrivate + index) ≠ spellingMark := by
      intro same
      rw [same] at found
      cases found
    simp [CodePoint.spell, codePoints, unmarked, found]

theorem codePoints_spelling (points : List CodePoint) : codePoints (spelling points) = points := by
  induction points with
  | nil => rfl
  | cons point rest ih =>
    rw [spelling, List.flatMap_cons, codePoints_spell_append]
    exact congrArg _ ih

theorem spelling_injective : Function.Injective spelling :=
  Function.LeftInverse.injective codePoints_spelling

theorem mapM_char? (chars : List Char) :
    (chars.map CodePoint.char).mapM CodePoint.char? = some chars := by
  induction chars with
  | nil => rfl
  | cons c rest ih =>
    rw [List.map_cons, List.mapM_cons, ih]
    rfl

theorem plain?_spelled (chars : List Char) : plain? (spelled chars) = some chars := by
  rw [plain?, spelled, codePoints_spelling, mapM_char?]

theorem codePoints_of_unmarked (unmarked : spellingMark ∉ chars) :
    codePoints chars = chars.map .char := by
  induction chars with
  | nil => rfl
  | cons c rest ih =>
    obtain ⟨first, others⟩ := List.ne_and_not_mem_of_not_mem_cons unmarked
    rw [codePoints_cons first.symm, ih others, List.map_cons]

theorem markOctet_mem {text : String} (marked : spellingMark ∈ text.toList) :
    markOctet ∈ text.toUTF8.data.toList := by
  obtain ⟨front, rest, split⟩ := List.append_of_mem marked
  have joined : text = String.ofList front ++ String.singleton spellingMark ++ String.ofList rest := by
    rw [← String.toList_inj, split]
    simp
  have inside : markOctet ∈ (String.singleton spellingMark).toUTF8.data.toList := by decide
  rw [joined]
  simp [String.toUTF8, String.toByteArray_append] at inside ⊢
  simp [inside]

/-- A text is encoded when all that it spells are characters, and then as these are. -/
theorem utf8?_eq (text : String) :
    utf8? text = (plain? text.toList).map fun chars => (String.ofList chars).toUTF8 := by
  unfold utf8?
  split
  · rfl
  · rename_i free
    have unmarked : spellingMark ∉ text.toList := by
      intro marked
      exact free (by simpa using markOctet_mem marked)
    rw [plain?, codePoints_of_unmarked unmarked, mapM_char?]
    simp

/-- The spelling of a text of characters is encoded as the text. -/
theorem utf8?_spelled (text : String) :
    utf8? (String.ofList (spelled text.toList)) = some text.toUTF8 := by
  rw [utf8?_eq, String.toList_ofList, plain?_spelled]
  simp

/-- A text cannot be encoded exactly when it holds a half of a pair. -/
theorem utf8?_eq_none_iff {text : String} :
    utf8? text = none ↔ ∃ index, .half index ∈ codePoints text.toList := by
  have missing (points : List CodePoint) :
      points.mapM CodePoint.char? = none ↔ ∃ index, .half index ∈ points := by
    induction points with
    | nil => simp
    | cons point rest ih =>
      cases point with
      | char c =>
        have onward : (.char c :: rest).mapM CodePoint.char? =
            (rest.mapM CodePoint.char?).map (c :: ·) := by
          rw [List.mapM_cons]
          cases rest.mapM CodePoint.char? <;> rfl
        rw [onward, Option.map_eq_none_iff, ih]
        simp
      | half index => simp [List.mapM_cons, CodePoint.char?]
  rw [utf8?_eq, Option.map_eq_none_iff, plain?, missing]

/-- The spelling of a text is cut at a character where the text is, unless the character can belong to
the spelling of something else. -/
theorem codePoints_append_cons {c : Char} (unmarked : c ≠ spellingMark)
    (alone : halfBehindMark? c = none) (front rest : List Char) :
    codePoints (front ++ c :: rest) = codePoints front ++ .char c :: codePoints rest := by
  induction front using codePoints.induct with
  | case1 => exact codePoints_cons unmarked rest
  | case2 last =>
    by_cases marked : last = spellingMark
    · simp [codePoints, marked, unmarked, alone, codePoints_cons unmarked]
    · simp [codePoints_cons marked, codePoints_cons unmarked, codePoints]
  | case3 rest ih => simp [codePoints, ih]
  | case4 second rest unpaired index found ih => simp [codePoints, unpaired, found, ih]
  | case5 second rest unpaired other ih => simp_all [codePoints]
  | case6 first second rest plain ih => simp_all [codePoints]

end TypedClient.Text
