import TypedClient.Proofs.Text.Characters

namespace TypedClient

theorem indentation_add {first second : Int} (nonneg : 0 ≤ first) (alsoNonneg : 0 ≤ second) :
    indentation (first + second) = indentation first ++ indentation second := by
  have steps : (first + second).toNat = first.toNat + second.toNat := by
    omega
  rw [indentation, indentation, indentation, Text.repeated, Text.repeated, Text.repeated, steps,
    ← List.replicate_append_replicate, String.join_append]

namespace Text

/-- The characters with some steps of indentation behind every line feed. -/
def shifted (level : Int) (chars : List Char) : List Char :=
  chars.flatMap fun c => if c = '\n' then '\n' :: (indentation level).toList else [c]

theorem shifted_append (level : Int) (front back : List Char) :
    shifted level (front ++ back) = shifted level front ++ shifted level back :=
  List.flatMap_append

theorem shifted_of_plain (level : Int) (plain : ∀ c ∈ chars, c ≠ '\n') : shifted level chars = chars := by
  induction chars with
  | nil => rfl
  | cons c rest ih =>
    have others := ih fun other member => plain other (List.mem_cons_of_mem c member)
    rw [shifted] at others
    rw [shifted, List.flatMap_cons, others, if_neg (plain c List.mem_cons_self), List.singleton_append]

theorem shifted_lineFeed (level : Int) (rest : List Char) :
    shifted level ('\n' :: rest) = '\n' :: ((indentation level).toList ++ shifted level rest) := by
  simp [shifted]

/-- No line of the text is empty. -/
inductive Filled : List Char → Prop where
  | line (plain : ∀ c ∈ chars, c ≠ '\n') (nonempty : chars ≠ []) : Filled chars
  | more (plain : ∀ c ∈ chars, c ≠ '\n') (nonempty : chars ≠ []) (later : Filled rest) :
      Filled (chars ++ '\n' :: rest)

theorem Filled.ne_nil (filled : Filled chars) : chars ≠ [] := by
  cases filled with
  | line _ nonempty => exact nonempty
  | more => simp

theorem Filled.join (first : Filled chars) (later : Filled rest) : Filled (chars ++ '\n' :: rest) := by
  induction first with
  | line plain nonempty => exact .more plain nonempty later
  | more plain nonempty _ ih =>
    rw [List.append_assoc, List.cons_append]
    exact .more plain nonempty ih

theorem Filled.behind (plain : ∀ c ∈ front, c ≠ '\n') (filled : Filled chars) : Filled (front ++ chars) := by
  have plainBoth {line : List Char} (plainLine : ∀ c ∈ line, c ≠ '\n') :
      ∀ c ∈ front ++ line, c ≠ '\n' := fun c member =>
    (List.mem_append.mp member).elim (plain c) (plainLine c)
  cases filled with
  | line plainLine nonempty => exact .line (plainBoth plainLine) (by simp [nonempty])
  | more plainLine nonempty later =>
    rw [← List.append_assoc]
    exact .more (plainBoth plainLine) (by simp [nonempty]) later

theorem Filled.before (filled : Filled chars) (plain : ∀ c ∈ back, c ≠ '\n') : Filled (chars ++ back) := by
  induction filled with
  | line plainLine nonempty =>
    refine .line (fun c member => ?_) (by simp [nonempty])
    exact (List.mem_append.mp member).elim (plainLine c) (plain c)
  | more plainLine nonempty _ ih =>
    rw [List.append_assoc, List.cons_append]
    exact .more plainLine nonempty ih

theorem Filled.unlines {first : String} {rest : List String}
    (each : ∀ line ∈ first :: rest, Filled line.toList) : Filled (unlines (first :: rest)).toList := by
  induction rest generalizing first with
  | nil => simpa [Text.unlines] using each first List.mem_cons_self
  | cons second rest ih =>
    rw [toList_unlines_cons_cons]
    exact (each first List.mem_cons_self).join
      (ih fun line member => each line (List.mem_cons_of_mem first member))

theorem lines_of_lineFeed (plain : ∀ c ∈ front, c ≠ '\n') {text : String}
    (spelled : text.toList = front ++ '\n' :: rest) :
    lines text = String.ofList front :: lines (String.ofList rest) := by
  have split := piecesBy_append (fun c member => beq_false_of_ne (plain c member)) (c := '\n') rfl rest
  rw [lines, lines, pieces, pieces, spelled, split, String.toList_ofList, List.map_cons]

theorem piecesBy_of_plain_append (plain : ∀ c ∈ front, separates c = false)
    (found : piecesBy separates rest = piece :: others) :
    piecesBy separates (front ++ rest) = (front ++ piece) :: others := by
  induction front with
  | nil => exact found
  | cons c front ih =>
    rw [List.cons_append, piecesBy, plain c List.mem_cons_self,
      ih fun other member => plain other (List.mem_cons_of_mem c member)]
    rfl

end Text

/-- A text that starts with lines none of which is empty has, when its lines are indented, spaces in front
and behind each line feed of its start. -/
theorem exists_toList_indentLines (filled : Text.Filled front) {text : String}
    (spelled : text.toList = front ++ rest) (level : Int) :
    ∃ later, (indentLines level text).toList =
      (indentation level).toList ++ (Text.shifted level front ++ later) ∧ (rest = [] → later = []) := by
  induction filled generalizing text with
  | @line front plain nonempty =>
    obtain ⟨piece, others, found⟩ := Text.exists_piecesBy (· == '\n') rest
    have split := Text.piecesBy_of_plain_append (fun c member => beq_false_of_ne (plain c member)) found
    refine ⟨piece ++ (others.map String.ofList).flatMap fun line =>
      '\n' :: (if line.isEmpty then "" else indentation level ++ line).toList, ?_, ?_⟩
    · rw [indentLines, Text.lines, Text.pieces, spelled, split, List.map_cons, List.map_cons,
        Text.toList_unlines_cons, Text.shifted_of_plain level plain, List.flatMap_map]
      simp [nonempty]
    · rintro rfl
      obtain ⟨rfl, rfl⟩ := List.cons.inj (found : [[]] = piece :: others)
      rfl
  | @more front lines plain nonempty later ih =>
    rw [List.append_assoc, List.cons_append] at spelled
    have written : String.ofList front ≠ "" := fun empty => nonempty (String.ofList_injective empty)
    obtain ⟨others, below, ends⟩ := ih (String.toList_ofList (l := lines ++ rest))
    obtain ⟨piece, pieces, found⟩ := Text.exists_piecesBy (· == '\n') (lines ++ rest)
    have linesFound : Text.lines (String.ofList (lines ++ rest)) =
        String.ofList piece :: pieces.map String.ofList := by
      rw [Text.lines, Text.pieces, String.toList_ofList, found, List.map_cons]
    rw [indentLines, linesFound, List.map_cons] at below
    refine ⟨others, ?_, ends⟩
    rw [indentLines, Text.lines_of_lineFeed plain spelled, linesFound, List.map_cons, List.map_cons,
      Text.toList_unlines_cons_cons, below, Text.shifted_append, Text.shifted_of_plain level plain,
      Text.shifted_lineFeed]
    simp [written]

/-- The lines of a text without empty lines are indented by spaces in front of it and behind its line
feeds. -/
theorem toList_indentLines {text : String} (filled : Text.Filled text.toList) (level : Int) :
    (indentLines level text).toList = (indentation level).toList ++ Text.shifted level text.toList := by
  obtain ⟨later, written, ends⟩ := exists_toList_indentLines filled (List.append_nil _).symm level
  rw [written, ends rfl, List.append_nil]

end TypedClient
