import TypedClient.Proofs.Client.Writing
import TypedClient.Proofs.Files.Rewriting

namespace TypedClient

open Store

namespace RenderedFile

@[simp]
theorem path_ofSource (outputDirectory : Path) (file : SourceFile) :
    (ofSource outputDirectory file).path = outputDirectory.join file.relativePath :=
  rfl

@[simp]
theorem text_ofSource (outputDirectory : Path) (file : SourceFile) :
    (ofSource outputDirectory file).text = file.render :=
  rfl

/-- The path of a file leads through directories to a file at some place, whatever it holds, and its text can
be encoded. -/
structure Stands (file : RenderedFile) (store : Store) (location : Location) : Prop where
  directory : store.isDirectory file.path.parent = true
  located : store.locate file.path = .ok location
  named : endsInName file.path = true
  present : ∃ content, store.entry? location = some (.file content)
  encoded : Text.utf8? file.text = some file.content

namespace Stands

variable {file : RenderedFile} {store : Store} {location : Location}

theorem stays (stands : file.Stands before location) (changes : Changes made written before after) :
    file.Stands after location where
  directory := changes.isDirectory_stays stands.directory
  located := changes.locate_stays stands.located
  named := stands.named
  present := stands.present.elim fun _ present => changes.file_stays present
  encoded := stands.encoded

theorem unique (stands : file.Stands store location) (located : store.locate file.path = .ok other) :
    other = location :=
  Except.ok.inj (located.symm.trans stands.located)

theorem changes_put (stands : file.Stands store location) (content : ByteArray) :
    WritesFiles [file.path] store (store.put location (.file content)) := by
  obtain ⟨old, present⟩ := stands.present
  exact writesFiles_put stands.located stands.named (by simp [present]) List.mem_cons_self content

theorem write_eq (stands : file.Stands store location) :
    file.write store = .ok () (store.put location (.file file.content)) := by
  obtain ⟨old, present⟩ := stands.present
  refine write_eq_ok.mpr ⟨store, makeDirectories_of_isDirectory stands.directory, _, stands.encoded, ?_⟩
  exact write_of_file stands.located stands.named present _

end Stands

/-- A file that is written is at the place of its path. -/
theorem exists_stands_of_write {file : RenderedFile} (success : file.write before = .ok () after) :
    ∃ location, file.Stands after location ∧ after.entry? location = some (.file file.content) := by
  have directory := isDirectory_of_write success
  obtain ⟨ready, _, octets, encoded, written⟩ := write_eq_ok.mp success
  obtain rfl := content_eq encoded
  rcases write_cases file.path file.content ready with
    ⟨location, located, named, noDirectory, put⟩ | ⟨_, refused⟩
  · cases put.symm.trans written
    have changes := writesFiles_put located named noDirectory (List.mem_singleton_self file.path)
      file.content
    have present : entry? (ready.put location (.file file.content)) location =
        some (.file file.content) := by
      simp [entry?_put (ready.ne_nil_of_noDirectory noDirectory)]
    exact ⟨location, ⟨directory, changes.locate_stays located, named, ⟨_, present⟩, encoded⟩, present⟩
  · cases refused.symm.trans written

/-! ### The last file at each place -/

/-- Every file has its place, and of the files with one place the text of the last one is there. -/
inductive Written (store : Store) : List RenderedFile → Prop where
  | nil : Written store []
  /-- No later file has the place of the first one. -/
  | last (stands : file.Stands store location)
      (alone : ∀ other ∈ later, store.locate other.path ≠ .ok location)
      (present : store.entry? location = some (.file file.content))
      (rest : Written store later) : Written store (file :: later)
  /-- A later file is written over the first one. -/
  | covered (stands : file.Stands store location) (member : other ∈ later)
      (located : store.locate other.path = .ok location)
      (rest : Written store later) : Written store (file :: later)

theorem written_of_writeAll {files : List RenderedFile}
    (success : writeAll files before = .ok () after) : Written after files := by
  induction files generalizing before with
  | nil => exact .nil
  | cons file later ih =>
    obtain ⟨_, middle, first, restWritten⟩ := Action.bind_eq_ok.mp success
    obtain ⟨location, stood, held⟩ := exists_stands_of_write first
    have changes := writeAll_ok restWritten
    have stands := stood.stays changes
    by_cases covering : ∃ other ∈ later, after.locate other.path = .ok location
    · obtain ⟨other, member, located⟩ := covering
      exact .covered stands member located (ih restWritten)
    · have alone : ∀ other ∈ later, after.locate other.path ≠ .ok location :=
        fun other member located => covering ⟨other, member, located⟩
      refine .last stands alone ?_ (ih restWritten)
      -- A file that is new or has other content would be at the place of a later path.
      obtain ⟨content, present⟩ := stands.present
      by_cases kept : middle.entry? location = some (.file content)
      · exact held.symm.trans kept ▸ present
      · obtain ⟨path, inLater, _, located⟩ := changes.exists_path present kept
        obtain ⟨other, member, rfl⟩ := List.mem_map.mp inLater
        exact absurd located (alone other member)

namespace Written

variable {store : Store} {files : List RenderedFile}

theorem exists_stands (written : Written store files) :
    ∀ file ∈ files, ∃ location, file.Stands store location := by
  induction written with
  | nil => simp
  | last stands _ _ _ ih | covered stands _ _ _ ih =>
    exact List.forall_mem_cons.mpr ⟨⟨_, stands⟩, ih⟩

/-- At the place of each file is the text of the last file that has this place, in UTF-8. -/
theorem exists_last (written : Written store files) (member : file ∈ files) :
    ∃ location earlier final later, files = earlier ++ final :: later ∧
      store.locate file.path = .ok location ∧ store.locate final.path = .ok location ∧
      (∀ other ∈ later, store.locate other.path ≠ .ok location) ∧
      ∃ octets, Text.utf8? final.text = some octets ∧
        store.entry? location = some (.file octets) := by
  induction written generalizing file with
  | nil => cases member
  | @last rest location first stands alone present _ ih =>
    rcases List.mem_cons.mp member with rfl | inRest
    · exact ⟨location, [], file, rest, rfl, stands.located, stands.located, alone, _, stands.encoded,
        present⟩
    · obtain ⟨place, earlier, final, later, rfl, found⟩ := ih inRest
      exact ⟨place, first :: earlier, final, later, rfl, found⟩
  | @covered rest other location first stands otherMember otherLocated _ ih =>
    rcases List.mem_cons.mp member with rfl | inRest
    · obtain ⟨place, earlier, final, later, rfl, located, found⟩ := ih otherMember
      cases located.symm.trans otherLocated
      exact ⟨location, file :: earlier, final, later, rfl, stands.located, found⟩
    · obtain ⟨place, earlier, final, later, rfl, found⟩ := ih inRest
      exact ⟨place, first :: earlier, final, later, rfl, found⟩

end Written

/-! ### Writing again -/

/-- What a file holds does not matter when it is written over. -/
theorem writeAll_put {files : List RenderedFile}
    (stand : ∀ file ∈ files, ∃ location, file.Stands store location) (member : covering ∈ files)
    (stands : covering.Stands store location) (content : ByteArray) :
    writeAll files (store.put location (.file content)) = writeAll files store := by
  induction files generalizing store with
  | nil => cases member
  | cons first rest ih =>
    obtain ⟨place, firstStands⟩ := stand first List.mem_cons_self
    have overwritten := (firstStands.stays (stands.changes_put content)).write_eq
    have steps (start : Store) : writeAll (first :: rest) start =
        (first.write >>= fun _ => writeAll rest) start := rfl
    have next {start after : Store} (written : first.write start = .ok () after) :
        writeAll (first :: rest) start = writeAll rest after := by
      rw [steps]
      change EStateM.bind first.write (fun _ => writeAll rest) start = _
      rw [EStateM.bind, written]
    rw [next overwritten, next firstStands.write_eq]
    by_cases same : place = location
    · rw [same, put_put]
    · have inRest : covering ∈ rest := by
        rcases List.mem_cons.mp member with rfl | inRest
        · exact absurd (stands.unique firstStands.located) same
        · exact inRest
      obtain ⟨old, present⟩ := stands.present
      have changes := firstStands.changes_put first.content
      rw [put_comm (Ne.symm same) present]
      refine ih (fun file inside => ?_) inRest (stands.stays changes)
      obtain ⟨there, fileStands⟩ := stand file (List.mem_cons_of_mem first inside)
      exact ⟨there, fileStands.stays changes⟩

/-- When all files are written, writing them again leaves everything as it is. -/
theorem Written.again {files : List RenderedFile} (written : Written store files) :
    writeAll files store = .ok () store := by
  induction written with
  | nil => rfl
  | last stands _ present _ ih =>
    refine Action.bind_eq_ok.mpr ⟨(), store, ?_, ih⟩
    rw [stands.write_eq, put_eq_self present]
  | covered stands member located rest ih =>
    refine Action.bind_eq_ok.mpr ⟨(), _, stands.write_eq, ?_⟩
    obtain ⟨place, otherStands⟩ := rest.exists_stands _ member
    cases otherStands.unique located
    rw [writeAll_put rest.exists_stands member otherStands, ih]

end RenderedFile

/-- The file is one below the output directory: its path starts there, and is not empty. -/
def SourceFile.IsInside (file : SourceFile) : Prop :=
  Path.rootOf file.relativePath = "" ∧ Path.partsOf file.relativePath ≠ []

/-- Where a file inside of a directory is written, there is the directory. -/
theorem isDirectory_of_isInside {store : Store} {file : SourceFile} (inside : file.IsInside)
    (isThere : store.isDirectory (RenderedFile.ofSource outputDirectory file).path.parent = true) :
    store.isDirectory outputDirectory = true := by
  have parent : (RenderedFile.ofSource outputDirectory file).path.parent =
      ⟨outputDirectory.root, outputDirectory.parts ++ (Path.partsOf file.relativePath).dropLast⟩ := by
    simp [RenderedFile.ofSource, Path.join, Path.append, Path.ofText, Path.parent, inside.1,
      List.dropLast_append_of_ne_nil inside.2]
  rw [parent] at isThere
  exact isDirectory_of_append isThere

theorem checkOutputDirectory_of_isDirectory {store : Store} (isThere : store.isDirectory path = true) :
    checkOutputDirectory store path = .ok () := by
  cases checked : checkOutputDirectory store path with
  | ok _ => rfl
  | error cause =>
    unfold isDirectory at isThere
    rcases checkOutputDirectory_eq_error.mp checked with ⟨_, _, found⟩ | ⟨_, found⟩
    all_goals
      rw [found] at isThere
      cases isThere

/-- Source files that are written once can be written again: this gives the same paths and leaves
exactly the same store. Where the files go up, go through directories that were made for them or share
a place does not matter. The one exception is an output directory that is refused afterwards, as when a
file stands in its place: then no file of the list is inside of it, and nothing is written. -/
theorem writeSources_again {files : List SourceFile}
    (success : writeSources outputDirectory files store = .ok written after) :
    writeSources outputDirectory files after = .ok written after ∨
      ∃ cause, writeSources outputDirectory files after = .error cause after ∧
        checkOutputDirectory after outputDirectory = .error cause ∧
        files ≠ [] ∧ ∀ file ∈ files, ¬ file.IsInside := by
  obtain ⟨checked, wroteAll, paths⟩ := writeSources_eq_ok.mp success
  cases accepted : checkOutputDirectory after outputDirectory with
  | ok _ =>
    have again := (RenderedFile.written_of_writeAll wroteAll).again
    exact .inl (writeSources_eq_ok.mpr ⟨accepted, again, paths⟩)
  | error cause =>
    refine .inr ⟨cause, writeSources_eq_error.mpr (.inl ⟨accepted, rfl⟩), rfl, ?_, ?_⟩
    · intro empty
      subst empty
      cases wroteAll
      cases checked.symm.trans accepted
    · intro file member isInside
      have isThere := RenderedFile.isDirectory_of_writeAll wroteAll _ (List.mem_map_of_mem member)
      have checkedAgain := checkOutputDirectory_of_isDirectory (isDirectory_of_isInside isInside isThere)
      cases checkedAgain.symm.trans accepted

/-- Two files that share a place; the second passes through a directory that is made for it. -/
def sharingFiles : List SourceFile :=
  [⟨"utils.ts", [], [.verbatim "first"]⟩, ⟨"lib/../utils.ts", [], [.verbatim "second"]⟩]

/-- They can be written again where a directory is missing on the way to the output directory. -/
theorem writeSources_again_sharing : ∃ written after,
    (∃ file ∈ sharingFiles, file.IsInside) ∧
      writeSources ⟨"", ["new", "..", "out"]⟩ sharingFiles .empty = .ok written after ∧
      (after.hasFile ["utils.ts", "out"] fun content => content == "second\n".toUTF8) = true ∧
      writeSources ⟨"", ["new", "..", "out"]⟩ sharingFiles after = .ok written after := by
  have inside : ∃ file ∈ sharingFiles, file.IsInside :=
    ⟨_, List.mem_cons_self, by unfold SourceFile.IsInside; decide⟩
  have evaluated : Action.succeedsWith
      (fun _ after => after.hasFile ["utils.ts", "out"] fun content => content == "second\n".toUTF8)
      (writeSources ⟨"", ["new", "..", "out"]⟩ sharingFiles .empty) = true := by decide +kernel
  obtain ⟨written, after, success, holds⟩ := Action.exists_of_succeedsWith evaluated
  refine ⟨written, after, inside, success, holds, (writeSources_again success).resolve_right ?_⟩
  rintro ⟨_, _, _, _, noneInside⟩
  exact inside.elim fun file isInside => noneInside file isInside.1 isInside.2

/-- A file whose path is the output directory itself. -/
def replacingFiles : List SourceFile :=
  [⟨".", [], []⟩]

/-- The output directory is not there, so the file is written in its place; the next time it is refused
for not being a directory. -/
theorem writeSources_replacing : ∃ written after,
    writeSources ⟨"", ["out"]⟩ replacingFiles .empty = .ok written after ∧
      writeSources ⟨"", ["out"]⟩ replacingFiles after = .error (.notDirectory ⟨"", ["out"]⟩) after := by
  have evaluated : Action.succeedsWith
      (fun _ after => Action.failsWith
        (fun cause left => cause == .notDirectory ⟨"", ["out"]⟩ && left == after)
        (writeSources ⟨"", ["out"]⟩ replacingFiles after))
      (writeSources ⟨"", ["out"]⟩ replacingFiles .empty) = true := by decide +kernel
  obtain ⟨written, after, success, fails⟩ := Action.exists_of_succeedsWith evaluated
  obtain ⟨cause, left, failure, same⟩ := Action.exists_of_failsWith fails
  obtain ⟨isCause, isLeft⟩ := Bool.and_eq_true_iff.mp same
  rw [beq_iff_eq.mp isCause, beq_iff_eq.mp isLeft] at failure
  exact ⟨written, after, success, failure⟩

end TypedClient
