import TypedClient.Proofs.Files.Change
import TypedClient.Proofs.Files.Name
import TypedClient.Proofs.Outcome

/-!
Paths that no file has. Nothing can be done with them in any store: they cannot be read, written or made. No
other path is refused for this reason.
-/

namespace TypedClient

namespace Store

variable {store after : Store} {path : Path}

theorem follow_ne_unusable (here : Location) (parts : List String) :
    store.follow here parts ≠ .error .unusable := by
  induction parts generalizing here with
  | nil => simp [follow]
  | cons part rest ih =>
    have step : store.step here part ≠ .error .unusable := by
      unfold Store.step
      grind
    rw [follow]
    cases taken : store.step here part with
    | error cause => exact fun failed => step (taken.trans failed)
    | ok next => exact ih next

theorem locate_eq_unusable : store.locate path = .error .unusable ↔ path.IsUnusable := by
  rw [Path.IsUnusable, ← List.any_eq_true]
  unfold locate
  split
  · rename_i unusable
    exact iff_of_true rfl unusable
  · rename_i usable
    refine iff_of_false ?_ usable
    split
    · simp
    · exact follow_ne_unusable _ _

theorem find_eq_unusable : store.find path = .error .unusable ↔ path.IsUnusable := by
  rw [find, Outcome.bind_eq_error, locate_eq_unusable, or_iff_left]
  rintro ⟨location, _, missing⟩
  split at missing <;> cases missing

theorem read_eq_unusable : store.read path = .error .unusable ↔ path.IsUnusable := by
  rw [read, Outcome.bind_eq_error, find_eq_unusable, or_iff_left]
  rintro ⟨entry, _, noFile⟩
  split at noFile <;> cases noFile

theorem isDirectory_of_isUnusable (unusable : path.IsUnusable) : store.isDirectory path = false := by
  rw [isDirectory, find_eq_unusable.mpr unusable]

theorem makeNewDirectory_eq_unusable :
    makeNewDirectory path store = .error .unusable after ↔ path.IsUnusable ∧ store = after := by
  have located : store.locate path = .error .unusable ↔ path.IsUnusable := locate_eq_unusable
  rw [← located]
  cases located : store.locate path with
  | error cause => simp [makeNewDirectory, Action.get_bind_apply, located, Action.throw_apply]
  | ok location =>
    simp only [makeNewDirectory, Action.get_bind_apply, located]
    split <;> simp [Action.throw_apply, Action.set_apply]

theorem throwUnlessDirectory_eq_error {cause refused : PathError} :
    (do if !(← get).isDirectory path then throw cause : StoreAction Unit) store = .error refused after ↔
      store.isDirectory path = false ∧ cause = refused ∧ store = after := by
  change (if !store.isDirectory path then throw cause else pure () : StoreAction Unit) store = _ ↔ _
  cases store.isDirectory path with
  | false => simp [Action.throw_apply]
  | true => exact iff_of_false nofun (by simp)

theorem makeDirectory_eq_unusable :
    makeDirectory path store = .error .unusable after ↔ path.IsUnusable ∧ store = after := by
  rw [makeDirectory, Action.tryCatch_eq_error]
  simp only [throwUnlessDirectory_eq_error]
  constructor
  · rintro ⟨cause, middle, notMade, _, rfl, rfl⟩
    exact makeNewDirectory_eq_unusable.mp notMade
  · rintro ⟨unusable, rfl⟩
    exact ⟨.unusable, store, makeNewDirectory_eq_unusable.mpr ⟨unusable, rfl⟩,
      isDirectory_of_isUnusable unusable, rfl, rfl⟩

/-- Where making directories fails for a part that is no name, it is one of those that are made first, and so
it is in the path. -/
theorem isUnusable_of_makeDirectoriesTo {root : String} {parts : List String}
    (failure : makeDirectoriesTo root parts store = .error .unusable after) :
    Path.IsUnusable ⟨root, parts.reverse⟩ := by
  induction parts generalizing store with
  | nil => exact (makeDirectory_eq_unusable.mp failure).1
  | cons last before ih =>
    rw [makeDirectoriesTo, Action.tryCatch_eq_error] at failure
    obtain ⟨cause, middle, notMade, failure⟩ := failure
    cases cause with
    | notFound =>
      rcases Action.bind_eq_error.mp failure with failure | ⟨_, _, _, failure⟩
      · exact List.reverse_cons ▸ (ih failure).append [last]
      · exact (makeDirectory_eq_unusable.mp failure).1
    | notDirectory | isDirectory | alreadyThere | tooLong =>
      obtain ⟨_, ⟨⟩, _⟩ := throwUnlessDirectory_eq_error.mp failure
    | unusable => exact (makeNewDirectory_eq_unusable.mp notMade).1

theorem makeDirectoriesTo_of_isUnusable {root : String} {parts : List String}
    (unusable : Path.IsUnusable ⟨root, parts.reverse⟩) :
    makeDirectoriesTo root parts store = .error .unusable store := by
  cases parts with
  | nil => exact makeDirectory_eq_unusable.mpr ⟨unusable, rfl⟩
  | cons last before =>
    rw [makeDirectoriesTo, Action.tryCatch_eq_error]
    refine ⟨.unusable, store, makeNewDirectory_eq_unusable.mpr ⟨unusable, rfl⟩, ?_⟩
    exact throwUnlessDirectory_eq_error.mpr ⟨isDirectory_of_isUnusable unusable, rfl, rfl⟩

/-- Making the directories of a path fails for this reason exactly when no file has the path, and then none is
made. -/
theorem makeDirectories_eq_unusable :
    makeDirectories path store = .error .unusable after ↔ path.IsUnusable ∧ store = after := by
  have same : path = ⟨path.root, path.parts.reverse.reverse⟩ := by rw [List.reverse_reverse]
  constructor
  · intro failure
    have unusable : path.IsUnusable := same ▸ isUnusable_of_makeDirectoriesTo failure
    cases (makeDirectoriesTo_of_isUnusable (same ▸ unusable)).symm.trans failure
    exact ⟨unusable, rfl⟩
  · rintro ⟨unusable, rfl⟩
    exact makeDirectoriesTo_of_isUnusable (same ▸ unusable)

theorem write_eq_unusable {content : ByteArray} :
    write path content store = .error .unusable after ↔ path.IsUnusable ∧ store = after := by
  have located : store.locate path = .error .unusable ↔ path.IsUnusable := locate_eq_unusable
  rw [← located]
  cases located : store.locate path with
  | error cause => simp [write, Action.get_bind_apply, located, Action.throw_apply]
  | ok location =>
    simp only [write, Action.get_bind_apply, located]
    split <;> simp [Action.throw_apply, Action.set_apply]

end Store

end TypedClient
