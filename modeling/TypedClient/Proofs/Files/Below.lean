import TypedClient.Proofs.Files.Change
import TypedClient.Proofs.Text.Characters

/-!
Places below a directory. A path that is continued leads from the place of its start to a place below
it, unless what continues it goes up more often than it went down.
-/

namespace TypedClient

/-- A place inside the directory at another place, however deep. -/
def Location.Below (root location : Location) : Prop :=
  ∃ names, names ≠ [] ∧ names ++ root = location

namespace Path

/-- Parts that are followed from some depth below a place go above that place. -/
def leavesFrom (depth : Nat) : List String → Bool
  | [] => false
  | part :: rest =>
    if part = up then depth == 0 || leavesFrom (depth - 1) rest
    else leavesFrom (depth + 1) rest

/-- Going along a relative path leads above the place where it starts, at least on the way. -/
def leaves (path : Path) : Bool :=
  leavesFrom 0 path.parts

/-- A path that is continued is no shorter on disk. -/
theorem size_le_append (path : Path) (more : List String) :
    path.size ≤ size ⟨path.root, path.parts ++ more⟩ ∨ path.size = 1 := by
  by_cases empty : path.root.isEmpty && path.parts.isEmpty
  · exact .inr (by rw [size, if_pos empty])
  · refine .inl ?_
    have longer : ¬(path.root.isEmpty && (path.parts ++ more).isEmpty) = true := by
      simp at empty ⊢
      tauto
    rw [size, size, if_neg empty, if_neg longer, List.flatMap_append, List.length_append,
      List.length_append]
    dsimp only
    omega

/-- A text without slashes between a name and an ending is one part, unless it is left out. -/
theorem partsOf_below {directory name : String} (plain : '/' ∉ directory.toList)
    (namePlain : '/' ∉ name.toList) :
    partsOf (directory ++ "/" ++ name) =
      [directory, name].filter fun part => !staysInPlace part := by
  have separates {text : String} (plain : '/' ∉ text.toList) :
      ∀ c ∈ text.toList, (c == '/') = false :=
    fun c member => beq_false_of_ne fun same => plain (same ▸ member)
  have pieces : Text.pieces '/' (directory ++ "/" ++ name) = [directory, name] := by
    have chars : (directory ++ "/" ++ name).toList = directory.toList ++ '/' :: name.toList := by simp
    rw [Text.pieces, chars, Text.piecesBy_append (separates plain) rfl,
      Text.piecesBy_of_plain (separates namePlain)]
    simp
  rw [partsOf, pieces]

end Path

namespace Store

variable {store : Store}

theorem follow_append (first second : List String) :
    store.follow here (first ++ second) = (store.follow here first).bind (store.follow · second) := by
  induction first generalizing here with
  | nil => rfl
  | cons part rest ih =>
    rw [List.cons_append, follow, follow]
    cases store.step here part with
    | error cause => rfl
    | ok next => exact ih

theorem step_eq_ok (taken : store.step here part = .ok next) :
    (part = Path.up ∧ next = here.tail) ∨
      (part ≠ Path.up ∧ next = FileName.onDisk part :: here) := by
  unfold step at taken
  split at taken
  · cases taken
  · cases taken
  · split at taken
    · rename_i goesUp
      exact .inl ⟨goesUp, (Except.ok.inj taken).symm⟩
    · rename_i goesDown
      split at taken
      · cases taken
      · exact .inr ⟨goesDown, (Except.ok.inj taken).symm⟩

/-- Parts that end in a name and do not go above a place lead to a place below it. They start at
`names` below it. -/
theorem follow_below {names root : Location}
    (followed : store.follow (names ++ root) parts = .ok location)
    (stays : Path.leavesFrom names.length parts = false)
    (ends : parts.getLast? = some last) (named : last ≠ Path.up) :
    Location.Below root location := by
  induction parts generalizing names with
  | nil => cases ends
  | cons part rest ih =>
    rw [follow] at followed
    cases taken : store.step (names ++ root) part with
    | error cause =>
      rw [taken] at followed
      cases followed
    | ok next =>
      rw [taken] at followed
      have onwards : store.follow next rest = .ok location := followed
      rcases step_eq_ok taken with ⟨rfl, rfl⟩ | ⟨down, rfl⟩
      · cases names with
        | nil => simp [Path.leavesFrom] at stays
        | cons name names =>
          have remaining : rest.getLast? = some last := by
            cases rest with
            | nil => exact absurd (Option.some.inj ends).symm named
            | cons _ _ => simpa using ends
          exact ih onwards (by simpa [Path.leavesFrom] using stays) remaining
      · cases rest with
        | nil => exact ⟨_ :: names, List.cons_ne_nil _ names, Except.ok.inj onwards⟩
        | cons second rest =>
          have deeper : Path.leavesFrom (FileName.onDisk part :: names).length (second :: rest) = false := by
            rwa [Path.leavesFrom, if_neg down] at stays
          have below : store.follow ((FileName.onDisk part :: names) ++ root) (second :: rest) =
              .ok location := onwards
          exact ih below deeper (by simpa using ends)

/-- Parts that are names lead down, one after another. -/
theorem eq_of_follow (followed : store.follow here parts = .ok location) (down : Path.up ∉ parts) :
    location = (parts.map FileName.onDisk).reverse ++ here := by
  induction parts generalizing here with
  | nil => exact (Except.ok.inj followed).symm
  | cons part rest ih =>
    rw [follow] at followed
    cases taken : store.step here part with
    | error cause =>
      rw [taken] at followed
      cases followed
    | ok next =>
      rw [taken] at followed
      obtain ⟨notUp, restDown⟩ := List.ne_and_not_mem_of_not_mem_cons down
      rcases step_eq_ok taken with ⟨isUp, _⟩ | ⟨_, rfl⟩
      · exact absurd isUp.symm notUp
      · simpa using ih followed restDown

theorem follow_of_locate (located : store.locate path = .ok location) :
    store.follow (store.start path) path.parts = .ok location := by
  unfold locate at located
  split at located
  · cases located
  · split at located
    · cases located
    · exact located

/-- A path that is continued leads first where it leads by itself. -/
theorem exists_locate_of_append {path : Path} {more : List String}
    (located : store.locate ⟨path.root, path.parts ++ more⟩ = .ok location) :
    ∃ here, store.locate path = .ok here ∧ store.follow here more = .ok location := by
  have whole : store.follow (store.start path) (path.parts ++ more) = .ok location :=
    follow_of_locate located
  have usable : path.parts.any FileName.isUnusable = false ∧ path.size ≤ pathLimit := by
    unfold locate at located
    split at located
    · cases located
    · rename_i plain
      split at located
      · cases located
      · rename_i short
        have shorter := Path.size_le_append path more
        simp only [List.any_append, Bool.or_eq_true, not_or, Bool.not_eq_true] at plain
        exact ⟨plain.1, by simp only [pathLimit] at short ⊢; omega⟩
  rw [follow_append] at whole
  cases reached : store.follow (store.start path) path.parts with
  | error cause =>
    rw [reached] at whole
    cases whole
  | ok here =>
    rw [reached] at whole
    refine ⟨here, ?_, whole⟩
    rw [locate, if_neg (by simp [usable.1]), if_neg (by omega), reached]

/-- A path whose continuation leads to a directory leads to a directory itself. -/
theorem isDirectory_of_append {path : Path} {more : List String}
    (isThere : store.isDirectory ⟨path.root, path.parts ++ more⟩ = true) :
    store.isDirectory path = true := by
  obtain ⟨location, located, present⟩ := isDirectory_iff.mp isThere
  obtain ⟨here, reached, followed⟩ := exists_locate_of_append located
  refine isDirectory_iff.mpr ⟨here, reached, ?_⟩
  cases more with
  | nil => exact Except.ok.inj followed ▸ present
  | cons part rest =>
    rw [follow, step] at followed
    split at followed
    · cases followed
    · cases followed
    · assumption

/-- A path that is continued by names leads to a place below the one where it led before. -/
theorem below_of_append {path other : Path} (relative : other.root = "") (stays : other.leaves = false)
    (reached : store.locate path = .ok root) (located : store.locate (path.append other) = .ok location)
    (named : endsInName (path.append other) = true) (apart : location ≠ root) :
    Location.Below root location := by
  have joined : path.append other = ⟨path.root, path.parts ++ other.parts⟩ := by
    simp [Path.append, relative]
  rw [joined] at located named
  have onwards : store.follow root other.parts = .ok location := by
    have whole : store.follow (store.start path) (path.parts ++ other.parts) = .ok location :=
      follow_of_locate located
    rwa [follow_append, follow_of_locate reached] at whole
  cases ends : other.parts.getLast? with
  | none =>
    rw [List.getLast?_eq_none_iff.mp ends] at onwards
    exact absurd (Except.ok.inj onwards).symm apart
  | some last =>
    have lastNamed : last ≠ Path.up := by
      simpa [endsInName, List.getLast?_append, ends] using named
    have below : store.follow ([] ++ root) other.parts = .ok location := onwards
    exact follow_below below stays ends lastNamed

end Store

end TypedClient
