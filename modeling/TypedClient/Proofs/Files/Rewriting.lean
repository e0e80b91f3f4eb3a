import TypedClient.Proofs.Files.Below

/-!
Writing over what is there. Making directories that are there changes nothing, and so does writing the
content that a file has. Of several writes to one place only the last one counts.
-/

namespace TypedClient

namespace Store

variable {store : Store} {location : Location}

/-! ### Entries -/

theorem lookup_of_file (present : store.entry? location = some (.file content)) :
    store.entries.lookup location = some (.file content) := by
  cases location with
  | nil => cases present
  | cons name rest => exact present

theorem put_put (store : Store) (location : Location) (first second : Entry) :
    (store.put location first).put location second = store.put location second := by
  simp only [put, upsert_upsert]

theorem put_comm {other : Location} (different : location ≠ other)
    (present : store.entry? location = some (.file content)) (entry otherEntry : Entry) :
    (store.put location entry).put other otherEntry =
      (store.put other otherEntry).put location entry := by
  have isThere : (store.entries.lookup location).isSome := by
    rw [lookup_of_file present]
    rfl
  simp only [put, upsert_comm different isThere]

theorem put_eq_self (present : store.entry? location = some (.file content)) :
    store.put location (.file content) = store := by
  simp only [put, upsert_eq_self (lookup_of_file present)]

/-- A file stays a file, with the old content or a new one. -/
theorem Changes.file_stays (changes : Changes made written before after)
    (present : before.entry? location = some (.file content)) :
    ∃ content, after.entry? location = some (.file content) := by
  have change := changes.change location
  rw [present] at change
  generalize after.entry? location = later at change
  cases change with
  | kept => exact ⟨content, rfl⟩
  | written _ _ => exact ⟨_, rfl⟩

/-! ### Actions -/

theorem makeNewDirectory_of_isDirectory (isThere : store.isDirectory path = true) :
    makeNewDirectory path store = .error .alreadyThere store := by
  obtain ⟨location, located, present⟩ := isDirectory_iff.mp isThere
  simp only [makeNewDirectory, Action.get_bind_apply, located, present]
  simp
  rfl

theorem makeDirectories_of_isDirectory (isThere : store.isDirectory path = true) :
    makeDirectories path store = .ok () store := by
  have refused := makeNewDirectory_of_isDirectory isThere
  have passed : (do if !(← get).isDirectory path then throw .alreadyThere : StoreAction Unit) store =
      .ok () store := by
    simp only [Action.get_bind_apply, isThere]
    rfl
  have whole : path = ⟨path.root, path.parts.reverse.reverse⟩ := by rw [List.reverse_reverse]
  unfold makeDirectories
  cases reversed : path.parts.reverse with
  | nil =>
    rw [reversed] at whole
    rw [whole] at refused passed
    exact Action.tryCatch_eq_ok.mpr (.inr ⟨_, _, refused, passed⟩)
  | cons last before =>
    rw [reversed] at whole
    rw [whole] at refused passed
    exact Action.tryCatch_eq_ok.mpr (.inr ⟨_, _, refused, passed⟩)

theorem write_of_file (located : store.locate path = .ok location) (named : endsInName path = true)
    (present : store.entry? location = some (.file old)) (content : ByteArray) :
    write path content store = .ok () (store.put location (.file content)) := by
  simp only [write, Action.get_bind_apply, located, named, hasDirectory, present]
  rfl

end Store

end TypedClient
