import Mathlib.Data.List.Basic
import TypedClient.Source.Expression

namespace TypedClient.Text

theorem dropPrefix?_append_self (word rest : List Char) :
    (word ++ rest).dropPrefix? word = some rest :=
  List.dropPrefix?_append_of_beq rest (beq_self_eq_true word)

/-- The pieces have all characters between the separating ones, and no others. -/
theorem exists_mem_piecesBy :
    (∃ piece ∈ piecesBy separates chars, c ∈ piece) ↔ c ∈ chars ∧ separates c = false := by
  induction chars with
  | nil => simp [piecesBy]
  | cons first rest ih =>
    rw [piecesBy]
    split
    · rename_i ends
      simp only [List.mem_cons, exists_eq_or_imp, List.not_mem_nil, false_or, ih]
      grind
    · rename_i plain
      split
      · rename_i none
        simp only [none, List.not_mem_nil, false_and, exists_false, false_iff] at ih
        simp only [List.mem_cons, List.not_mem_nil, or_false, exists_eq_left]
        grind
      · rename_i head pieces found
        simp only [found, List.mem_cons, exists_eq_or_imp] at ih ⊢
        grind

theorem not_separates_of_mem_piecesBy (present : piece ∈ piecesBy separates chars)
    (member : c ∈ piece) : separates c = false :=
  (exists_mem_piecesBy.mp ⟨piece, present, member⟩).2

theorem piecesBy_of_plain (plain : ∀ c ∈ chars, separates c = false) :
    piecesBy separates chars = [chars] := by
  induction chars with
  | nil => rfl
  | cons first rest ih =>
    rw [piecesBy, plain first List.mem_cons_self,
      ih fun c member => plain c (List.mem_cons_of_mem first member)]
    rfl

theorem exists_piecesBy (separates : Char → Bool) (chars : List Char) :
    ∃ piece others, piecesBy separates chars = piece :: others := by
  apply List.exists_cons_of_ne_nil
  cases chars with
  | nil => simp [piecesBy]
  | cons c chars =>
    unfold piecesBy
    split
    · simp
    · split <;> simp

/-- A separating character keeps the pieces in front of it and the pieces behind it apart. -/
theorem piecesBy_separated (ends : separates c = true) (front rest : List Char) :
    piecesBy separates (front ++ c :: rest) = piecesBy separates front ++ piecesBy separates rest := by
  induction front with
  | nil => simp [piecesBy, ends]
  | cons first front ih =>
    obtain ⟨piece, others, found⟩ := exists_piecesBy separates front
    rw [List.cons_append, piecesBy, piecesBy, ih, found]
    split <;> rfl

theorem piecesBy_append (plain : ∀ c ∈ front, separates c = false) (ends : separates c = true)
    (rest : List Char) : piecesBy separates (front ++ c :: rest) = front :: piecesBy separates rest := by
  rw [piecesBy_separated ends, piecesBy_of_plain plain, List.singleton_append]

/-- Characters that separate nothing go on with the last piece. -/
theorem piecesBy_plain_behind (plain : ∀ c ∈ more, separates c = false) (chars : List Char) :
    ∃ earlier last, piecesBy separates chars = earlier ++ [last] ∧
      piecesBy separates (chars ++ more) = earlier ++ [last ++ more] := by
  induction chars with
  | nil => exact ⟨[], [], rfl, piecesBy_of_plain plain⟩
  | cons first chars ih =>
    obtain ⟨earlier, last, found, extended⟩ := ih
    rw [List.cons_append, piecesBy, piecesBy, found, extended]
    split
    · exact ⟨[] :: earlier, last, rfl, rfl⟩
    · cases earlier with
      | nil => exact ⟨[], first :: last, rfl, rfl⟩
      | cons piece earlier => exact ⟨(first :: piece) :: earlier, last, rfl, rfl⟩

/-- A text without line feeds is its only line. -/
theorem lines_of_plain (plain : ∀ c ∈ text.toList, c ≠ '\n') : lines text = [text] := by
  have one : piecesBy (· == '\n') text.toList = [text.toList] :=
    piecesBy_of_plain fun c member => beq_false_of_ne (plain c member)
  rw [lines, pieces, one, List.map_singleton, String.ofList_toList]

theorem toList_intercalate_cons (separator first : String) (rest : List String) :
    (separator.intercalate (first :: rest)).toList =
      first.toList ++ rest.flatMap fun item => separator.toList ++ item.toList := by
  induction rest generalizing first with
  | nil => simp
  | cons second rest ih =>
    rw [String.intercalate_cons_cons, String.toList_append, String.toList_append, ih]
    simp

theorem toList_unlines_cons (first : String) (rest : List String) :
    (unlines (first :: rest)).toList = first.toList ++ rest.flatMap fun line => '\n' :: line.toList :=
  toList_intercalate_cons "\n" first rest

theorem toList_unlines_cons_cons (first second : String) (rest : List String) :
    (unlines (first :: second :: rest)).toList =
      first.toList ++ '\n' :: (unlines (second :: rest)).toList := by
  rw [toList_unlines_cons, toList_unlines_cons, List.flatMap_cons, List.cons_append]

/-- Texts that are joined by line feeds have all their lines, one text after another. -/
theorem lines_unlines_eq_flatMap (first : String) (rest : List String) :
    lines (unlines (first :: rest)) = (first :: rest).flatMap lines := by
  induction rest generalizing first with
  | nil => simp [unlines]
  | cons second rest ih =>
    rw [List.flatMap_cons, ← ih, lines, pieces, toList_unlines_cons_cons, piecesBy_separated rfl,
      List.map_append]
    rfl

/-- Lines that are joined are found again when none of them has a line feed inside. -/
theorem lines_unlines {first : String} {rest : List String}
    (plain : ∀ line ∈ first :: rest, ∀ c ∈ line.toList, c ≠ '\n') :
    lines (unlines (first :: rest)) = first :: rest := by
  have single : (first :: rest).flatMap lines = (first :: rest).flatMap fun line => [line] :=
    List.flatMap_congr fun line member => lines_of_plain (plain line member)
  rw [lines_unlines_eq_flatMap, single, List.flatMap_singleton']

/-- The last line of a text. -/
def lastLine (text : String) : String :=
  (lines text).getLast?.getD ""

/-- What has no line feed and stands behind a text goes on with its last line. -/
theorem lastLine_append_mem (text : String) (plain : ∀ c ∈ more.toList, c ≠ '\n') :
    lastLine text ++ more ∈ lines (text ++ more) := by
  obtain ⟨earlier, last, found, extended⟩ :=
    piecesBy_plain_behind (fun c member => beq_false_of_ne (plain c member)) text.toList
  have ends : lastLine text = String.ofList last := by
    simp [lastLine, lines, pieces, found]
  rw [lines, pieces, String.toList_append, extended, ends]
  simp [String.ofList_append]

theorem mem_commaSeparated {items : List String} (member : c ∈ (commaSeparated items).toList) :
    c = ',' ∨ c = ' ' ∨ ∃ item ∈ items, c ∈ item.toList := by
  cases items with
  | nil => simp [commaSeparated] at member
  | cons first rest =>
    rw [commaSeparated, toList_intercalate_cons, List.mem_append, List.mem_flatMap] at member
    rcases member with inFirst | ⟨item, present, inside⟩
    · exact .inr (.inr ⟨first, List.mem_cons_self, inFirst⟩)
    · rcases List.mem_append.mp inside with inSeparator | inItem
      · have separator : c = ',' ∨ c = ' ' := by simpa using inSeparator
        exact separator.imp_right .inl
      · exact .inr (.inr ⟨item, List.mem_cons_of_mem first present, inItem⟩)

theorem length_le_commaSeparated (items : List String) :
    items.length ≤ (commaSeparated items).toList.length + 1 := by
  induction items with
  | nil => exact Nat.zero_le _
  | cons first rest ih =>
    cases rest with
    | nil => simp
    | cons second rest =>
      have whole : (commaSeparated (first :: second :: rest)).toList =
          first.toList ++ (", ".toList ++ (commaSeparated (second :: rest)).toList) := by
        simp [commaSeparated, String.intercalate_cons_cons]
      have separator : ", ".toList.length = 2 := rfl
      rw [whole, List.length_append, List.length_append, List.length_cons]
      omega

end TypedClient.Text

namespace TypedClient

theorem mem_indentation {steps : Int} (member : c ∈ (indentation steps).toList) : c = ' ' := by
  simp only [indentation, Text.repeated, String.toList_join, List.mem_flatMap] at member
  obtain ⟨step, present, inside⟩ := member
  rw [List.eq_of_mem_replicate present] at inside
  simpa using inside

end TypedClient
