import Mathlib.Data.List.Basic
import TypedClient.Files.Store
import TypedClient.Proofs.Action
import TypedClient.Proofs.Association

/-!
What actions change in a store, also when they fail. Making the directories of a path adds directories
at places that leading parts of the path lead to, and writing a file changes what is in the file at the
place of its path. A directory that is there stays, so a path goes on leading where it led before.
-/

namespace TypedClient

/-- How what is at a place changes: it stays, a directory is made where nothing was, or a file is
written where no directory was. -/
inductive Entry.Change (isMade isWritten : Prop) : Option Entry → Option Entry → Prop where
  | kept : Entry.Change isMade isWritten entry entry
  | made (allowed : isMade) : Entry.Change isMade isWritten none (some .directory)
  | written (allowed : isWritten) (noDirectory : entry ≠ some .directory) :
      Entry.Change isMade isWritten entry (some (.file content))

namespace Entry.Change

theorem trans (first : Entry.Change isMade isWritten before middle)
    (second : Entry.Change isMade isWritten middle after) :
    Entry.Change isMade isWritten before after := by
  cases second with
  | kept => exact first
  | made allowed =>
    cases first with
    | kept => exact .made allowed
  | written allowed noDirectory =>
    cases first with
    | kept => exact .written allowed noDirectory
    | made _ => exact False.elim (noDirectory rfl)
    | written _ before => exact .written allowed before

theorem mono (change : Entry.Change isMade isWritten before after) (made : isMade → isMade')
    (written : isWritten → isWritten') : Entry.Change isMade' isWritten' before after := by
  cases change with
  | kept => exact .kept
  | made allowed => exact .made (made allowed)
  | written allowed noDirectory => exact .written (written allowed) noDirectory

theorem directory_stays (change : Entry.Change isMade isWritten (some .directory) after) :
    after = some .directory := by
  cases change with
  | kept => rfl
  | written _ noDirectory => exact False.elim (noDirectory rfl)

end Entry.Change

namespace Store

/-- The stores differ only in directories that are new at some places and in files that are written at
some places. -/
structure Changes (made written : Location → Prop) (before after : Store) : Prop where
  workingDirectory : after.workingDirectory = before.workingDirectory
  change : ∀ location, Entry.Change (made location) (written location)
    (before.entry? location) (after.entry? location)

namespace Changes

variable {made written : Location → Prop} {before middle after : Store}

theorem refl (store : Store) : Changes made written store store :=
  ⟨rfl, fun _ => .kept⟩

theorem trans (first : Changes made written before middle)
    (second : Changes made written middle after) : Changes made written before after where
  workingDirectory := second.workingDirectory.trans first.workingDirectory
  change := fun location => (first.change location).trans (second.change location)

theorem mono (changes : Changes made written before after)
    (moreMade : ∀ location, made location → made' location)
    (moreWritten : ∀ location, written location → written' location) :
    Changes made' written' before after where
  workingDirectory := changes.workingDirectory
  change := fun location => (changes.change location).mono (moreMade location) (moreWritten location)

theorem directory_stays (changes : Changes made written before after)
    (present : before.entry? location = some .directory) :
    after.entry? location = some .directory :=
  (present ▸ changes.change location).directory_stays

theorem step_stays (changes : Changes made written before after)
    (taken : before.step here part = .ok there) : after.step here part = .ok there := by
  unfold step at taken ⊢
  split at taken
  · cases taken
  · cases taken
  · rename_i present
    rw [changes.directory_stays present]
    exact taken

/-- A path that can be followed leads to the same place afterwards. -/
theorem follow_stays (changes : Changes made written before after)
    (followed : before.follow here parts = .ok there) : after.follow here parts = .ok there := by
  induction parts generalizing here with
  | nil => exact followed
  | cons part rest ih =>
    rw [follow] at followed ⊢
    cases taken : before.step here part with
    | error cause =>
      rw [taken] at followed
      cases followed
    | ok next =>
      rw [taken] at followed
      rw [changes.step_stays taken]
      exact ih followed

theorem locate_stays (changes : Changes made written before after)
    (located : before.locate path = .ok location) : after.locate path = .ok location := by
  have sameStart : after.start path = before.start path := by
    rw [start, start, changes.workingDirectory]
  unfold locate at located ⊢
  split at located
  · cases located
  · rename_i usable
    rw [if_neg usable]
    split at located
    · cases located
    · rename_i short
      rw [if_neg short, sameStart]
      exact changes.follow_stays located

end Changes

theorem isDirectory_iff {store : Store} : store.isDirectory path = true ↔
    ∃ location, store.locate path = .ok location ∧ store.entry? location = some .directory := by
  unfold isDirectory find
  cases located : store.locate path with
  | error cause => simp [Except.bind, bind]
  | ok location =>
    cases present : store.entry? location with
    | none => simp [Except.bind, bind, present]
    | some entry => cases entry <;> simp [Except.bind, bind, present, pure, Except.pure]

/-- There is a file at a place, with content of some kind. -/
def hasFile (store : Store) (location : Location) (holds : ByteArray → Bool) : Bool :=
  match store.entry? location with
  | some (.file content) => holds content
  | _ => false

theorem exists_of_hasFile {store : Store} (present : store.hasFile location holds = true) :
    ∃ content, store.entry? location = some (.file content) ∧ holds content = true := by
  unfold hasFile at present
  split at present
  · rename_i content found
    exact ⟨content, found, present⟩
  · cases present

theorem Changes.isDirectory_stays (changes : Changes made written before after)
    (isThere : before.isDirectory path = true) : after.isDirectory path = true := by
  obtain ⟨location, located, present⟩ := isDirectory_iff.mp isThere
  exact isDirectory_iff.mpr
    ⟨location, changes.locate_stays located, changes.directory_stays present⟩

theorem entry?_put {location : Location} (named : location ≠ []) (store : Store) (entry : Entry)
    (other : Location) :
    entry? (store.put location entry) other =
      if other == location then some entry else store.entry? other := by
  cases other with
  | nil => simp [ entry?, named]
  | cons name rest => exact lookup_upsert location entry store.entries (name :: rest)

theorem ne_nil_of_noDirectory (store : Store) (noDirectory : store.entry? location ≠ some .directory) :
    location ≠ [] := by
  rintro rfl
  exact noDirectory rfl

/-! ### Directories -/

/-- A leading part of a path leads to the place. -/
def LedTo (store : Store) (path : Path) (location : Location) : Prop :=
  ∃ parts, parts <+: path.parts ∧ store.locate ⟨path.root, parts⟩ = .ok location

/-- All that may be new are directories at places that leading parts of the path lead to. -/
def GainsDirectories (path : Path) (before after : Store) : Prop :=
  Changes (after.LedTo path) (fun _ => False) before after

namespace GainsDirectories

theorem refl (path : Path) (store : Store) : GainsDirectories path store store :=
  Changes.refl store

theorem trans (first : GainsDirectories path before middle)
    (second : GainsDirectories path middle after) : GainsDirectories path before after := by
  have later : ∀ location, middle.LedTo path location → after.LedTo path location := by
    rintro location ⟨parts, leading, located⟩
    exact ⟨parts, leading, second.locate_stays located⟩
  exact (Changes.mono first later fun _ => id).trans second

theorem mono {longer path : Path} (gains : GainsDirectories path before after)
    (sameRoot : path.root = longer.root) (leading : path.parts <+: longer.parts) :
    GainsDirectories longer before after := by
  refine Changes.mono gains ?_ fun _ => id
  rintro location ⟨parts, inPath, located⟩
  exact ⟨parts, inPath.trans leading, sameRoot ▸ located⟩

end GainsDirectories

theorem gainsDirectories_put {path : Path} {store : Store} (located : store.locate path = .ok location)
    (free : store.entry? location = none) :
    GainsDirectories path store (store.put location .directory) := by
  have named : location ≠ [] := store.ne_nil_of_noDirectory (by simp [free])
  have changed (made : Location → Prop) (here : made location) :
      Changes made (fun _ => False) store (store.put location .directory) := by
    refine ⟨rfl, fun other => ?_⟩
    rw [ entry?_put named]
    split
    · rename_i same
      rw [eq_of_beq same, free]
      exact .made here
    · exact .kept
  have stays := (changed (fun _ => True) trivial).locate_stays located
  exact changed _ ⟨path.parts, List.prefix_rfl, stays⟩

theorem makeNewDirectory_cases (path : Path) (store : Store) :
    (∃ location, store.locate path = .ok location ∧ store.entry? location = none ∧
        makeNewDirectory path store = .ok () (store.put location .directory)) ∨
      ∃ cause, makeNewDirectory path store = .error cause store := by
  cases located : store.locate path with
  | error cause =>
    refine .inr ⟨cause, ?_⟩
    simp only [makeNewDirectory, Action.get_bind_apply, located]
    rfl
  | ok location =>
    by_cases new : endsInName path && (store.entry? location).isNone
    · have free := Option.isNone_iff_eq_none.mp (Bool.and_eq_true_iff.mp new).2
      refine .inl ⟨location, rfl, free, ?_⟩
      simp only [makeNewDirectory, Action.get_bind_apply, located, new, ↓reduceIte]
      rfl
    · refine .inr ⟨.alreadyThere, ?_⟩
      simp only [makeNewDirectory, Action.get_bind_apply, located, new]
      rfl

theorem makeNewDirectory_within (path : Path) :
    Action.Within (GainsDirectories path) (makeNewDirectory path) := by
  intro store
  rcases makeNewDirectory_cases path store with ⟨location, located, free, made⟩ | ⟨cause, refused⟩
  · rw [made]
    exact gainsDirectories_put located free
  · rw [refused]
    exact .refl path store

theorem throwUnlessDirectory_within (path other : Path) (cause : PathError) :
    Action.Within (GainsDirectories path) (do
      if !(← get).isDirectory other then throw cause : StoreAction Unit) := by
  apply Action.Within.get_bind
  intro store
  split
  · exact Action.within_throw (.refl path) cause
  · exact Action.within_pure (.refl path) ()

theorem makeDirectory_within (path : Path) :
    Action.Within (GainsDirectories path) (makeDirectory path) :=
  (makeNewDirectory_within path).tryCatch .trans (throwUnlessDirectory_within path path)

theorem makeDirectoriesTo_within (root : String) (parts : List String) :
    Action.Within (GainsDirectories ⟨root, parts.reverse⟩) (makeDirectoriesTo root parts) := by
  induction parts with
  | nil => exact makeDirectory_within ⟨root, []⟩
  | cons last before ih =>
    rw [makeDirectoriesTo]
    apply (makeNewDirectory_within _).tryCatch .trans
    intro cause
    cases cause with
    | notFound =>
      refine Action.Within.bind .trans ?_ fun _ => makeDirectory_within _
      exact ih.mono fun _ _ gains => gains.mono rfl (List.reverse_cons ▸ List.prefix_append _ _)
    | notDirectory | isDirectory | alreadyThere | tooLong | unusable =>
      exact throwUnlessDirectory_within _ _ _

/-- Making the directories of a path makes no others, also when it fails half way. -/
theorem makeDirectories_within (path : Path) :
    Action.Within (GainsDirectories path) (makeDirectories path) := by
  have within := makeDirectoriesTo_within path.root path.parts.reverse
  rwa [List.reverse_reverse] at within

theorem isDirectory_of_makeNewDirectory (success : makeNewDirectory path before = .ok () after) :
    after.isDirectory path = true := by
  rcases makeNewDirectory_cases path before with ⟨location, located, free, made⟩ | ⟨cause, refused⟩
  · cases made.symm.trans success
    have named : location ≠ [] := before.ne_nil_of_noDirectory (by simp [free])
    have stays := (gainsDirectories_put located free).locate_stays located
    exact isDirectory_iff.mpr ⟨location, stays, by simp [ entry?_put named]⟩
  · cases refused.symm.trans success

theorem isDirectory_of_throwUnless {cause : PathError}
    (success : (do if !(← get).isDirectory path then throw cause : StoreAction Unit) before =
      .ok () after) : after.isDirectory path = true := by
  change (if !before.isDirectory path then throw cause else pure () : StoreAction Unit) before = _
    at success
  cases there : before.isDirectory path with
  | false =>
    rw [there] at success
    cases success
  | true =>
    rw [there] at success
    cases success
    exact there

theorem isDirectory_of_makeDirectory (success : makeDirectory path before = .ok () after) :
    after.isDirectory path = true := by
  rcases Action.tryCatch_eq_ok.mp success with made | ⟨_, _, _, handled⟩
  · exact isDirectory_of_makeNewDirectory made
  · exact isDirectory_of_throwUnless handled

/-- When the directories of a path are made, the path leads to a directory. -/
theorem isDirectory_of_makeDirectories (success : makeDirectories path before = .ok () after) :
    after.isDirectory path = true := by
  unfold makeDirectories at success
  cases reversed : path.parts.reverse with
  | nil =>
    have same : path = ⟨path.root, []⟩ := congrArg (Path.mk path.root) (List.reverse_eq_nil_iff.mp reversed)
    rw [reversed] at success
    exact same ▸ isDirectory_of_makeDirectory success
  | cons last before =>
    have same : path = ⟨path.root, (last :: before).reverse⟩ := by rw [← reversed, List.reverse_reverse]
    rw [reversed] at success
    rw [same]
    rcases Action.tryCatch_eq_ok.mp success with made | ⟨cause, middle, _, handled⟩
    · exact isDirectory_of_makeNewDirectory made
    · cases cause with
      | notFound =>
        obtain ⟨_, _, _, made⟩ := Action.bind_eq_ok.mp handled
        exact isDirectory_of_makeDirectory made
      | notDirectory | isDirectory | alreadyThere | tooLong | unusable =>
        exact isDirectory_of_throwUnless handled

/-! ### Files -/

theorem write_cases (path : Path) (content : ByteArray) (store : Store) :
    (∃ location, store.locate path = .ok location ∧ endsInName path = true ∧
        store.entry? location ≠ some .directory ∧
        write path content store = .ok () (store.put location (.file content))) ∨
      ∃ cause, write path content store = .error cause store := by
  cases located : store.locate path with
  | error cause =>
    refine .inr ⟨cause, ?_⟩
    simp only [write, Action.get_bind_apply, located]
    rfl
  | ok location =>
    by_cases refused : !endsInName path || store.hasDirectory location
    · refine .inr ⟨.isDirectory, ?_⟩
      simp only [write, Action.get_bind_apply, located, refused, ↓reduceIte]
      rfl
    · have accepted : endsInName path = true ∧ store.hasDirectory location = false := by
        simpa using refused
      have noDirectory : store.entry? location ≠ some .directory := by
        intro directory
        simp [hasDirectory, directory] at accepted
      refine .inl ⟨location, rfl, accepted.1, noDirectory, ?_⟩
      simp only [write, Action.get_bind_apply, located, refused]
      rfl

/-- Some directories may be new, and files may be written at the places of some paths. -/
def WritesFiles (paths : List Path) (before after : Store) : Prop :=
  Changes (fun _ => True)
    (fun location => ∃ path ∈ paths, endsInName path = true ∧ after.locate path = .ok location)
    before after

namespace WritesFiles

theorem refl (paths : List Path) (store : Store) : WritesFiles paths store store :=
  Changes.refl store

theorem trans (first : WritesFiles paths before middle) (second : WritesFiles paths middle after) :
    WritesFiles paths before after := by
  refine (Changes.mono first (fun _ => id) ?_).trans second
  rintro location ⟨path, member, named, located⟩
  exact ⟨path, member, named, second.locate_stays located⟩

theorem isDirectory_stays (writes : WritesFiles paths before after)
    (isThere : before.isDirectory path = true) : after.isDirectory path = true :=
  Changes.isDirectory_stays writes isThere

/-- A file that is new or has other content is at the place of one of the paths. -/
theorem exists_path (writes : WritesFiles paths before after)
    (present : after.entry? location = some (.file content))
    (new : before.entry? location ≠ some (.file content)) :
    ∃ path ∈ paths, endsInName path = true ∧ after.locate path = .ok location := by
  have change := writes.change location
  rw [present] at change
  generalize found : before.entry? location = earlier at change
  cases change with
  | kept => exact absurd found new
  | written allowed _ => exact allowed

end WritesFiles

theorem GainsDirectories.writesFiles (gains : GainsDirectories path before after) (paths : List Path) :
    WritesFiles paths before after :=
  Changes.mono gains (fun _ _ => trivial) fun _ => False.elim

theorem writesFiles_put {path : Path} {store : Store} (located : store.locate path = .ok location)
    (named : endsInName path = true) (noDirectory : store.entry? location ≠ some .directory)
    (member : path ∈ paths) (content : ByteArray) :
    WritesFiles paths store (store.put location (.file content)) := by
  have changed (written : Location → Prop) (here : written location) :
      Changes (fun _ => True) written store (store.put location (.file content)) := by
    refine ⟨rfl, fun other => ?_⟩
    rw [ entry?_put (store.ne_nil_of_noDirectory noDirectory)]
    split
    · rename_i same
      rw [eq_of_beq same]
      exact .written here noDirectory
    · exact .kept
  have stays := (changed (fun _ => True) trivial).locate_stays located
  exact changed _ ⟨path, member, named, stays⟩

theorem write_within (member : path ∈ paths) (content : ByteArray) :
    Action.Within (WritesFiles paths) (write path content) := by
  intro store
  rcases write_cases path content store with
    ⟨location, located, named, noDirectory, written⟩ | ⟨cause, refused⟩
  · rw [written]
    exact writesFiles_put located named noDirectory member content
  · rw [refused]
    exact .refl paths store

end Store

end TypedClient
