import TypedClient.Client.Write
import TypedClient.Proofs.Files.Change

/-!
What writing source files leaves behind. Writing changes only what is at the places of the files and
makes directories; when a file cannot be written, the files before it are written and, of the
directories that lead to it, some may be made.
-/

namespace TypedClient

namespace RenderedFile

variable {file : RenderedFile} {store before after : Store}

theorem content_eq (encoded : Text.utf8? file.text = some octets) : file.content = octets := by
  rw [content, encoded, Option.getD_some]

theorem content_of_unencodable (unencodable : Text.utf8? file.text = none) : file.content = .empty := by
  rw [content, unencodable, Option.getD_none]

/-- A file is written exactly when its directories are made, and then its text in UTF-8 is written. -/
theorem write_eq_ok : file.write before = .ok () after ↔
    ∃ ready, Store.makeDirectories file.path.parent before = .ok () ready ∧
      ∃ octets, Text.utf8? file.text = some octets ∧
        Store.write file.path octets ready = .ok () after := by
  simp only [write, Action.bind_eq_ok, Action.adaptExcept_eq_ok]
  cases encoded : Text.utf8? file.text with
  | none => simp [Action.throw_apply]
  | some octets =>
    simp only [content_eq encoded]
    constructor
    · rintro ⟨_, ready, made, _, _, written, ⟨⟩⟩
      exact ⟨ready, made, octets, rfl, written⟩
    · rintro ⟨ready, made, _, ⟨⟩, written⟩
      exact ⟨(), ready, made, (), after, written, rfl⟩

/-- Writing a file fails when its directories are not made, when it cannot be opened, and, with the file
opened and empty, when its text cannot be encoded. -/
theorem write_eq_error : file.write before = .error cause after ↔
    (∃ refused, Store.makeDirectories file.path.parent before = .error refused after ∧
      .directoryNotMade file.path.parent refused = cause) ∨
    ∃ ready, Store.makeDirectories file.path.parent before = .ok () ready ∧
      ((∃ refused, Store.write file.path file.content ready = .error refused after ∧
          .fileNotWritten file.path refused = cause) ∨
        Text.utf8? file.text = none ∧ Store.write file.path .empty ready = .ok () after ∧
          .unencodable file.path = cause) := by
  simp only [write, Action.bind_eq_error, Action.adaptExcept_eq_ok, Action.adaptExcept_eq_error]
  refine or_congr_right ?_
  cases encoded : Text.utf8? file.text with
  | none =>
    simp only [content_of_unencodable encoded, true_and]
    constructor
    · rintro ⟨_, ready, made, refused | ⟨_, _, opened, ⟨⟩⟩⟩
      · exact ⟨ready, made, .inl refused⟩
      · exact ⟨ready, made, .inr ⟨opened, rfl⟩⟩
    · rintro ⟨ready, made, refused | ⟨opened, rfl⟩⟩
      · exact ⟨(), ready, made, .inl refused⟩
      · exact ⟨(), ready, made, .inr ⟨(), after, opened, rfl⟩⟩
  | some octets =>
    constructor
    · rintro ⟨_, ready, made, refused | ⟨_, _, _, ⟨⟩⟩⟩
      exact ⟨ready, made, .inl refused⟩
    · rintro ⟨ready, made, refused | ⟨⟨⟩, _⟩⟩
      exact ⟨(), ready, made, .inl refused⟩

theorem write_within (member : file.path ∈ paths) :
    Action.Within (Store.WritesFiles paths) file.write := by
  refine Action.Within.bind .trans ?_ fun _ => Action.Within.bind .trans ?_ fun _ => ?_
  · refine ((Store.makeDirectories_within file.path.parent).mono ?_).adaptExcept _
    exact fun _ _ gains => gains.writesFiles paths
  · exact (Store.write_within member file.content).adaptExcept _
  · split
    · exact Action.within_throw (.refl paths) _
    · exact Action.within_pure (.refl paths) ()

theorem isDirectory_of_write (success : file.write before = .ok () after) :
    after.isDirectory file.path.parent = true := by
  obtain ⟨_, made, octets, _, written⟩ := write_eq_ok.mp success
  have within : Action.Within (Store.WritesFiles [file.path]) (Store.write file.path octets) :=
    Store.write_within List.mem_cons_self octets
  exact (within.of_ok written).isDirectory_stays (Store.isDirectory_of_makeDirectories made)

/-- A file that cannot be written leaves at most some of the directories that lead to it; only a file whose
text cannot be encoded is there, and empty. -/
theorem write_error (failure : file.write before = .error cause after) :
    Store.GainsDirectories file.path.parent before after ∨
      Text.utf8? file.text = none ∧ ∃ ready, Store.GainsDirectories file.path.parent before ready ∧
        Store.write file.path .empty ready = .ok () after := by
  have directories := Store.makeDirectories_within file.path.parent
  rcases write_eq_error.mp failure with
    ⟨_, notMade, _⟩ | ⟨ready, made, ⟨_, notWritten, _⟩ | ⟨unencodable, opened, _⟩⟩
  · exact .inl (directories.of_error notMade)
  · rcases Store.write_cases file.path file.content ready with ⟨_, _, _, _, written⟩ | ⟨_, refused⟩
    · cases written.symm.trans notWritten
    · cases refused.symm.trans notWritten
      exact .inl (directories.of_ok made)
  · exact .inr ⟨unencodable, ready, directories.of_ok made, opened⟩

theorem writeAll_within {files : List RenderedFile} (members : ∀ file ∈ files, file.path ∈ paths) :
    Action.Within (Store.WritesFiles paths) (writeAll files) := by
  induction files with
  | nil => exact Action.within_pure (.refl paths) ()
  | cons file rest ih =>
    refine Action.Within.bind .trans (write_within (members file List.mem_cons_self)) fun _ => ?_
    exact ih fun other member => members other (List.mem_cons_of_mem file member)

theorem writeAll_ok {files : List RenderedFile} (success : writeAll files before = .ok () after) :
    Store.WritesFiles (files.map (·.path)) before after :=
  (writeAll_within fun _ member => List.mem_map_of_mem member).of_ok success

/-- When all files are written, each of them is in a directory. -/
theorem isDirectory_of_writeAll {files : List RenderedFile}
    (success : writeAll files before = .ok () after) :
    ∀ file ∈ files, after.isDirectory file.path.parent = true := by
  induction files generalizing before with
  | nil => simp
  | cons first rest ih =>
    obtain ⟨_, middle, written, restWritten⟩ := Action.bind_eq_ok.mp success
    intro file member
    rcases List.mem_cons.mp member with rfl | later
    · exact (writeAll_ok restWritten).isDirectory_stays (isDirectory_of_write written)
    · exact ih restWritten file later

/-- When writing fails it fails at one of the files, after all files before it. -/
theorem writeAll_error {files : List RenderedFile} (failure : writeAll files store = .error cause after) :
    ∃ earlier file later middle, files = earlier ++ file :: later ∧
      writeAll earlier store = .ok () middle ∧ file.write middle = .error cause after := by
  induction files generalizing store with
  | nil => cases failure
  | cons first rest ih =>
    rcases Action.bind_eq_error.mp failure with refused | ⟨_, next, written, failure⟩
    · exact ⟨[], first, rest, store, rfl, rfl, refused⟩
    · obtain ⟨earlier, file, later, middle, rfl, before, refused⟩ := ih failure
      exact ⟨first :: earlier, file, later, middle, rfl, Action.bind_eq_ok.mpr ⟨(), next, written, before⟩,
        refused⟩

end RenderedFile

/-- The output directory is refused when it is a file, or when it cannot be told what it is. -/
theorem checkOutputDirectory_eq_error {store : Store} :
    checkOutputDirectory store path = .error cause ↔
      (cause = .notDirectory path ∧ ∃ content, store.find path = .ok (.file content)) ∨
        (cause = .unknowable path .tooLong ∧ store.find path = .error .tooLong) := by
  unfold checkOutputDirectory acceptOutputDirectory
  split
  · rename_i found
    simp [found]
  · rename_i content found
    simp [found, eq_comm]
  · rename_i found
    simp [found, eq_comm]
  · rename_i other different found
    simp only [found, reduceCtorEq, false_iff]
    rintro (⟨_, _, same⟩ | ⟨_, same⟩)
    · cases same
    · exact different (Except.error.inj same)

section

variable {outputDirectory : Path} {files : List SourceFile} {store after : Store}

theorem writeSources_of_refused (refused : checkOutputDirectory store outputDirectory = .error cause) :
    writeSources outputDirectory files store = .error cause store := by
  simp only [writeSources, Action.get_bind_apply, refused]
  rfl

theorem writeSources_of_accepted (accepted : checkOutputDirectory store outputDirectory = .ok ()) :
    writeSources outputDirectory files store =
      (RenderedFile.writeAll (files.map (.ofSource outputDirectory)) >>= fun _ =>
        pure ((files.map (RenderedFile.ofSource outputDirectory)).map (·.path))) store := by
  simp only [writeSources, Action.get_bind_apply, accepted]

theorem writeSources_eq_ok :
    writeSources outputDirectory files store = .ok written after ↔
      checkOutputDirectory store outputDirectory = .ok () ∧
        RenderedFile.writeAll (files.map (.ofSource outputDirectory)) store = .ok () after ∧
        (files.map (RenderedFile.ofSource outputDirectory)).map (·.path) = written := by
  cases checked : checkOutputDirectory store outputDirectory with
  | error cause => simp [writeSources_of_refused checked]
  | ok _ =>
    simp only [writeSources_of_accepted checked, Action.bind_eq_ok, true_and]
    constructor
    · rintro ⟨_, _, success, same⟩
      cases same
      exact ⟨success, rfl⟩
    · rintro ⟨success, rfl⟩
      exact ⟨(), after, success, rfl⟩

theorem writeSources_eq_error :
    writeSources outputDirectory files store = .error cause after ↔
      (checkOutputDirectory store outputDirectory = .error cause ∧ store = after) ∨
        (checkOutputDirectory store outputDirectory = .ok () ∧
          RenderedFile.writeAll (files.map (.ofSource outputDirectory)) store =
            .error cause after) := by
  cases checked : checkOutputDirectory store outputDirectory with
  | error refused => simp [writeSources_of_refused checked]
  | ok _ =>
    simp only [writeSources_of_accepted checked, Action.bind_eq_error, reduceCtorEq, false_and,
      false_or, true_and]
    constructor
    · rintro (failure | ⟨_, _, _, same⟩)
      · exact failure
      · cases same
    · exact .inl

end

end TypedClient
