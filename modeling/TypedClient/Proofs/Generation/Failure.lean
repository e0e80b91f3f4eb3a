import TypedClient.Proofs.Generation.Confinement

namespace TypedClient.Generation

/-- How a run fails, with the cause and with the store that it leaves. -/
inductive Failure (world : World) (request : Request) : GenerationError → Store → Prop where
  /-- There is no client: the document is not loaded, has no version that is supported, or does not
  compile. -/
  | unprepared (failed : clientOf world request = .error cause) : Failure world request cause world.store
  /-- The output directory is something else, or its path is too long to tell. -/
  | refused {client : Client} (made : clientOf world request = .ok client)
      (taken : (cause = .notDirectory request.outputDirectory ∧
          ∃ content, world.store.find request.outputDirectory = .ok (.file content)) ∨
        (cause = .unknowable request.outputDirectory .tooLong ∧
          world.store.find request.outputDirectory = .error .tooLong)) :
      Failure world request (.write cause) world.store
  /-- A file cannot be written, after all files before it. -/
  | interrupted {client : Client} (made : clientOf world request = .ok client)
      (files : client.files = earlier ++ file :: later)
      (written : RenderedFile.writeAll (earlier.map (.ofSource request.outputDirectory)) world.store =
        .ok () middle)
      (failed : (RenderedFile.ofSource request.outputDirectory file).write middle = .error cause store)
      (directories : Store.GainsDirectories
        (RenderedFile.ofSource request.outputDirectory file).path.parent middle store) :
      Failure world request (.write cause) store
  /-- The text of a file cannot be encoded. The file is opened, after all files before it, and nothing is
  left in it. -/
  | emptied {client : Client} (made : clientOf world request = .ok client)
      (files : client.files = earlier ++ file :: later)
      (written : RenderedFile.writeAll (earlier.map (.ofSource request.outputDirectory)) world.store =
        .ok () middle)
      (failed : (RenderedFile.ofSource request.outputDirectory file).write middle = .error cause store)
      (unencodable : Text.utf8? file.render = none)
      (directories : Store.GainsDirectories
        (RenderedFile.ofSource request.outputDirectory file).path.parent middle ready)
      (opened : Store.write (RenderedFile.ofSource request.outputDirectory file).path .empty ready =
        .ok () store) :
      Failure world request (.write cause) store

/-- Every failed run leaves the store as one of these ways says. -/
theorem failure_of_run (failure : run world request = .error cause store) :
    Failure world request cause store := by
  rcases run_eq_error.mp failure with ⟨failed, rfl⟩ | ⟨client, refused, made, failed, rfl⟩
  · exact .unprepared failed
  · rcases writeSources_eq_error.mp failed with ⟨notAccepted, rfl⟩ | ⟨_, notWritten⟩
    · exact .refused made (checkOutputDirectory_eq_error.mp notAccepted)
    · obtain ⟨earlier, file, later, middle, files, written, failed⟩ :=
        RenderedFile.writeAll_error notWritten
      obtain ⟨before, rest, split, rfl, rendered⟩ := List.map_eq_append_iff.mp files
      obtain ⟨source, after, rfl, rfl, _⟩ := List.map_eq_cons_iff.mp rendered
      rcases RenderedFile.write_error failed with directories | ⟨unencodable, ready, directories, opened⟩
      · exact .interrupted made split written failed directories
      · exact .emptied made split written failed unencodable directories opened

/-- Where a directory has the name of the second file, the first file is written and no other. -/
theorem failure_models : ∃ cause store,
    run (worldOf "Users_list" [(["models.ts", "out"], .directory), (["out"], .directory)])
        outRequest = .error cause store ∧
      cause = .write (.fileNotWritten ⟨"", ["out", "models.ts"]⟩ .isDirectory) ∧
      (store.hasFile ["utils.ts", "out"] fun _ => true) = true ∧
      Failure (worldOf "Users_list" [(["models.ts", "out"], .directory), (["out"], .directory)])
        outRequest cause store := by
  have evaluated : Action.failsWith
      (fun cause store =>
        decide (cause = .write (.fileNotWritten ⟨"", ["out", "models.ts"]⟩ .isDirectory)) &&
          store.hasFile ["utils.ts", "out"] fun _ => true)
      (run (worldOf "Users_list" [(["models.ts", "out"], .directory), (["out"], .directory)])
        outRequest) = true := by decide +kernel
  obtain ⟨cause, store, failure, holds⟩ := Action.exists_of_failsWith evaluated
  obtain ⟨same, written⟩ := Bool.and_eq_true_iff.mp holds
  exact ⟨cause, store, failure, of_decide_eq_true same, written, failure_of_run failure⟩

/-- A world with a client in the directory `out`, and with a document that names a model by half of a pair. -/
def halfNamedWorld : World where
  store := ⟨[(["spec.json"], .file (String.join ["\x7b\"openapi\": \"3.0.0\", \"paths\": \x7b\x7d, ",
      "\"components\": \x7b\"schemas\": \x7b\"\\ud800\": \x7b\x7d\x7d\x7d\x7d"]).toUTF8),
    (["models.ts", "out"], .file "mine".toUTF8), (["out"], .directory)], []⟩
  web := []
  redirects := 0

/-- The text of the models cannot be encoded, and what was in their file is lost. -/
theorem run_empties_models : ∃ cause store,
    run halfNamedWorld outRequest = .error cause store ∧
      cause = .write (.unencodable ⟨"", ["out", "models.ts"]⟩) ∧
      halfNamedWorld.store.entry? ["models.ts", "out"] = some (.file "mine".toUTF8) ∧
      store.entry? ["models.ts", "out"] = some (.file .empty) := by
  have evaluated : Action.failsWith
      (fun cause store => decide (cause = .write (.unencodable ⟨"", ["out", "models.ts"]⟩)) &&
        store.hasFile ["models.ts", "out"] fun content => decide (content = .empty))
      (run halfNamedWorld outRequest) = true := by decide +kernel
  obtain ⟨cause, store, failure, holds⟩ := Action.exists_of_failsWith evaluated
  obtain ⟨same, emptied⟩ := Bool.and_eq_true_iff.mp holds
  obtain ⟨content, present, isEmpty⟩ := Store.exists_of_hasFile emptied
  exact ⟨cause, store, failure, of_decide_eq_true same, rfl, of_decide_eq_true isEmpty ▸ present⟩

end TypedClient.Generation
