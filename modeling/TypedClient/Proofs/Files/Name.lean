import TypedClient.Files.Path
import TypedClient.Proofs.Text.Spelling

/-!
Names of files. A name without marks is on disk as it is written. The names of a path can be used when its
text can.
-/

namespace TypedClient

namespace FileName

open Text (CodePoint)

theorem joinHalves_chars (chars : List Char) :
    joinHalves 0 (chars.map .char) = chars.map CodePoint.char := by
  induction chars with
  | nil => rfl
  | cons c rest ih =>
    have alone (count : Nat) : joinedAt? (.char c :: rest.map .char) (count + 1) = none := rfl
    rw [List.map_cons, joinHalves]
    simp [alone, ih]

/-- A name without marks is on disk as it is. -/
theorem onDisk_of_unmarked {name : String} (unmarked : Text.spellingMark ∉ name.toList) :
    onDisk name = name := by
  have spelled : Text.spelling (name.toList.map .char) = name.toList := by
    have each : ∀ c ∈ name.toList, (CodePoint.char c).spell = [c] := by
      intro c member
      rw [CodePoint.spell, if_neg]
      rintro rfl
      exact unmarked member
    rw [Text.spelling, List.flatMap_map, List.flatMap_congr each]
    simp
  rw [onDisk, Text.codePoints_of_unmarked unmarked, joinHalves_chars, spelled, String.ofList_toList]

/-- Halves that make up a character name the same file as the character. -/
example : onDisk (String.ofList (Text.spelling [.half 0x4c3, .half 0x4a9])) = "é" := by decide +kernel

end FileName

namespace Path

/-- No file has the path: one of its parts is the name of none. -/
def IsUnusable (path : Path) : Prop :=
  ∃ part ∈ path.parts, FileName.isUnusable part = true

/-- A longer path has the parts of a shorter one. -/
theorem IsUnusable.append {root : String} {parts : List String} (unusable : IsUnusable ⟨root, parts⟩)
    (more : List String) : IsUnusable ⟨root, parts ++ more⟩ :=
  unusable.imp fun _ found => ⟨List.mem_append_left more found.1, found.2⟩

/-- A name holds a refused code point when one of the pieces between its slashes does. -/
theorem any_refused_piecesBy (chars : List Char) :
    ((Text.piecesBy (· == '/') chars).any fun piece =>
        (Text.codePoints piece).any FileName.isRefused) =
      (Text.codePoints chars).any FileName.isRefused := by
  by_cases slash : '/' ∈ chars
  · obtain ⟨front, rest, split⟩ := List.append_of_mem slash
    have whole : chars.length = front.length + (rest.length + 1) := by simp [split]
    have inFront := any_refused_piecesBy front
    have behind := any_refused_piecesBy rest
    have slashHeld : FileName.isRefused (.char '/') = false := rfl
    rw [split, Text.codePoints_append_cons (by decide) (by decide), Text.piecesBy_separated (by rfl),
      List.any_append, List.any_append, List.any_cons, inFront, behind, slashHeld, Bool.false_or]
  · have plain : ∀ c ∈ chars, (c == '/') = false := by
      intro c member
      exact beq_false_of_ne (ne_of_mem_of_not_mem member slash)
    rw [Text.piecesBy_of_plain plain, List.any_cons, List.any_nil, Bool.or_false]
termination_by chars.length
decreasing_by all_goals omega

theorem not_isUnusable_of_staysInPlace {part : String} (stays : staysInPlace part = true) :
    FileName.isUnusable part = false := by
  rw [staysInPlace, Bool.or_eq_true, beq_iff_eq, beq_iff_eq] at stays
  rcases stays with rfl | rfl <;> decide

/-- A text writes a path that no file has when no file has the text as a name. -/
theorem isUnusable_ofText {text : String} :
    (ofText text).IsUnusable ↔ FileName.isUnusable text = true := by
  rw [FileName.isUnusable, ← any_refused_piecesBy, List.any_eq_true]
  simp only [IsUnusable, ofText, partsOf, Text.pieces, List.mem_filter, List.mem_map]
  constructor
  · rintro ⟨_, ⟨⟨piece, member, rfl⟩, _⟩, refused⟩
    exact ⟨piece, member, by simpa [FileName.isUnusable] using refused⟩
  · rintro ⟨piece, member, refused⟩
    have unusable : FileName.isUnusable (String.ofList piece) = true := by
      simpa [FileName.isUnusable] using refused
    refine ⟨_, ⟨⟨piece, member, rfl⟩, ?_⟩, unusable⟩
    by_contra dropped
    have usable := not_isUnusable_of_staysInPlace (by simpa using dropped)
    exact Bool.false_ne_true (usable.symm.trans unusable)

end Path

end TypedClient
