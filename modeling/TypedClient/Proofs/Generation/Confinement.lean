import TypedClient.Generation
import TypedClient.Proofs.Client.Compiled
import TypedClient.Proofs.Client.Writing
import TypedClient.Proofs.Files.Below

namespace TypedClient

namespace Service

theorem rootOf_relativePath (service : Service) : Path.rootOf service.relativePath = "" := by
  simp [Path.rootOf, relativePath]

/-- The file of a service whose name has no slash is in the directory of services. -/
theorem partsOf_relativePath {service : Service} (plain : '/' ∉ service.name.toList) :
    Path.partsOf service.relativePath = ["services", service.name ++ ".ts"] ∧
      service.name ++ ".ts" ≠ Path.up := by
  have split : service.relativePath = "services" ++ "/" ++ (service.name ++ ".ts") := by
    simp [relativePath, String.append_assoc]
  have ending (part : String) (other : part.toList.getLast? ≠ some 's') :
      service.name ++ ".ts" ≠ part := by
    rintro rfl
    simp at other
  have kept : ["services", service.name ++ ".ts"].filter (fun part => !Path.staysInPlace part) =
      ["services", service.name ++ ".ts"] := by
    simp [Path.staysInPlace, ending "." (by decide)]
  rw [split, Path.partsOf_below (by decide) (by simpa using plain)]
  exact ⟨kept, ending Path.up (by decide)⟩

theorem leaves_relativePath {service : Service} (plain : '/' ∉ service.name.toList) :
    (Path.ofText service.relativePath).leaves = false := by
  obtain ⟨below, named⟩ := partsOf_relativePath plain
  have down : "services" ≠ Path.up := by decide
  simp [Path.leaves, Path.ofText, below, Path.leavesFrom, named, down]

/-- The file of the service has a path that leads out of the output directory. -/
def Escapes (service : Service) : Prop :=
  '/' ∈ service.name.toList ∧ (Path.ofText service.relativePath).leaves = true

theorem escapes_of_leaves {service : Service}
    (leads : (Path.ofText service.relativePath).leaves = true) : service.Escapes := by
  refine ⟨?_, leads⟩
  by_contra plain
  rw [leaves_relativePath plain] at leads
  cases leads

end Service

namespace Client

theorem relativePath_of_mem_files (compiled : compile document header = .ok client)
    (member : file ∈ client.files) :
    Path.rootOf file.relativePath = "" ∧
      ((Path.ofText file.relativePath).leaves = false ∨
        ∃ service ∈ client.services, service.Escapes ∧ file.relativePath = service.relativePath) := by
  obtain ⟨_, _, _, _, _, _, rfl⟩ := compile_eq_ok.mp compiled
  have fixed : ∀ name ∈ ["utils.ts", "models.ts"],
      Path.rootOf name = "" ∧ (Path.ofText name).leaves = false := by decide
  rcases List.mem_cons.mp member with rfl | member
  · obtain ⟨relative, stays⟩ := fixed "utils.ts" (by simp)
    exact ⟨relative, .inl stays⟩
  · rcases List.mem_cons.mp member with rfl | member
    · obtain ⟨relative, stays⟩ := fixed "models.ts" (by simp)
      exact ⟨relative, .inl stays⟩
    · obtain ⟨service, present, rfl⟩ := List.mem_map.mp member
      refine ⟨service.rootOf_relativePath, ?_⟩
      cases leads : (Path.ofText service.relativePath).leaves with
      | false => exact .inl leads
      | true => exact .inr ⟨service, present, Service.escapes_of_leaves leads, rfl⟩

/-- The file with the shared declarations is in the output directory itself. -/
theorem exists_parent_eq (compiled : compile document header = .ok client) (outputDirectory : Path) :
    ∃ file ∈ client.files.map (RenderedFile.ofSource outputDirectory),
      file.path.parent = outputDirectory := by
  obtain ⟨_, _, _, _, _, _, rfl⟩ := compile_eq_ok.mp compiled
  refine ⟨_, List.mem_cons_self, ?_⟩
  have parts : Path.ofText "utils.ts" = ⟨"", ["utils.ts"]⟩ := by decide
  simp [RenderedFile.ofSource, sharedFile, Path.join, parts, Path.append, Path.parent]

end Client

namespace Generation

theorem compile_of_clientOf {client : Client} (made : clientOf world request = .ok client) :
    ∃ document header, Client.compile document header = .ok client := by
  simp only [clientOf, ofDocument, Outcome.bind_eq_ok, Outcome.mapError_eq_ok] at made
  obtain ⟨document, _, _, _, _, _, compiled⟩ := made
  exact ⟨document, _, compiled⟩

theorem run_eq_ok : run world request = .ok generation store ↔
    ∃ client written, clientOf world request = .ok client ∧
      writeSources request.outputDirectory client.files world.store = .ok written store ∧
      ofClient request client written = generation := by
  unfold run
  cases clientOf world request with
  | error cause => simp
  | ok client =>
    cases result : writeSources request.outputDirectory client.files world.store <;>
      simp [result, and_assoc, and_comm]

theorem run_eq_error : run world request = .error cause store ↔
    (clientOf world request = .error cause ∧ world.store = store) ∨
      ∃ client refused, clientOf world request = .ok client ∧
        writeSources request.outputDirectory client.files world.store = .error refused store ∧
        .write refused = cause := by
  unfold run
  cases clientOf world request with
  | error cause => simp
  | ok client =>
    cases result : writeSources request.outputDirectory client.files world.store <;>
      simp [result, and_assoc, and_comm]

/-- Every file that a run makes or changes is below the output directory, except the files of services
that have slashes in their names and escape. -/
theorem run_files_below (success : run world request = .ok generation store) :
    ∃ root, store.locate request.outputDirectory = .ok root ∧
      ∀ location content, store.entry? location = some (.file content) →
        world.store.entry? location ≠ some (.file content) →
        Location.Below root location ∨
          ∃ service ∈ generation.client.services, service.Escapes ∧
            store.locate (request.outputDirectory.join service.relativePath) = .ok location := by
  obtain ⟨client, written, made, wrote, rfl⟩ := run_eq_ok.mp success
  obtain ⟨document, header, compiled⟩ := compile_of_clientOf made
  obtain ⟨_, wroteAll, rfl⟩ := writeSources_eq_ok.mp wrote
  obtain ⟨shared, sharedMember, sharedParent⟩ :=
    Client.exists_parent_eq compiled request.outputDirectory
  obtain ⟨root, reached, isThere⟩ := Store.isDirectory_iff.mp
    (sharedParent ▸ RenderedFile.isDirectory_of_writeAll wroteAll shared sharedMember)
  refine ⟨root, reached, ?_⟩
  intro location content present new
  obtain ⟨path, pathMember, named, located⟩ :=
    (RenderedFile.writeAll_ok wroteAll).exists_path present new
  obtain ⟨_, fileMember, rfl⟩ := List.mem_map.mp pathMember
  obtain ⟨file, sourceMember, rfl⟩ := List.mem_map.mp fileMember
  obtain ⟨relative, stays | ⟨service, serviceMember, escapes, samePath⟩⟩ :=
    Client.relativePath_of_mem_files compiled sourceMember
  · have apart : location ≠ root := by
      rintro rfl
      cases present.symm.trans isThere
    exact .inl (Store.below_of_append relative stays reached located named apart)
  · exact .inr ⟨service, serviceMember, escapes, samePath ▸ located⟩

/-- A world whose document declares one operation. -/
def worldOf (operationId : String) (others : List (Location × Entry)) : World where
  store := ⟨(["spec.json"], .file (String.join ["\x7b\"openapi\": \"3.0.0\", ",
    "\"paths\": \x7b\"/notes\": \x7b\"get\": \x7b\"operationId\": \"", operationId,
    "\"\x7d\x7d\x7d\x7d"]).toUTF8) :: others, []⟩
  web := []
  redirects := 0

/-- Asks for the client of this document in the directory `out`. -/
def outRequest : Request :=
  ⟨"spec.json", ⟨"", ["out"]⟩, false, false⟩

/-- A service that goes up once has its file beside the directory of services. -/
theorem run_files_below_users : ∃ generation store content,
    run (worldOf "../Users_list" []) outRequest = .ok generation store ∧
      store.entry? ["Users.ts", "out"] = some (.file content) ∧
      (worldOf "../Users_list" []).store.entry? ["Users.ts", "out"] = none ∧
      ∃ root, store.locate outRequest.outputDirectory = .ok root ∧
        (Location.Below root ["Users.ts", "out"] ∨
          ∃ service ∈ generation.client.services, service.Escapes ∧
            store.locate (outRequest.outputDirectory.join service.relativePath) =
              .ok ["Users.ts", "out"]) := by
  have evaluated : Action.succeedsWith
      (fun _ store => store.hasFile ["Users.ts", "out"] fun _ => true)
      (run (worldOf "../Users_list" []) outRequest) = true := by decide +kernel
  obtain ⟨generation, store, success, written⟩ := Action.exists_of_succeedsWith evaluated
  obtain ⟨content, present, _⟩ := Store.exists_of_hasFile written
  obtain ⟨root, reached, below⟩ := run_files_below success
  have new : (worldOf "../Users_list" []).store.entry? ["Users.ts", "out"] = none := rfl
  exact ⟨generation, store, content, success, present, new, root, reached,
    below _ _ present (by simp [new])⟩

/-- A service that goes up twice writes over a file beside the output directory. -/
theorem run_overwrites_notes : ∃ generation store content,
    run (worldOf "../../notes_get" [(["notes.ts"], .file "mine".toUTF8)]) outRequest =
        .ok generation store ∧
      store.locate outRequest.outputDirectory = .ok ["out"] ∧
      store.entry? ["notes.ts"] = some (.file content) ∧ content ≠ "mine".toUTF8 ∧
      ¬Location.Below ["out"] ["notes.ts"] := by
  have evaluated : Action.succeedsWith
      (fun _ store => decide (store.locate outRequest.outputDirectory = .ok ["out"]) &&
        store.hasFile ["notes.ts"] fun content => decide (content ≠ "mine".toUTF8))
      (run (worldOf "../../notes_get" [(["notes.ts"], .file "mine".toUTF8)]) outRequest) = true := by
    decide +kernel
  obtain ⟨generation, store, success, holds⟩ := Action.exists_of_succeedsWith evaluated
  obtain ⟨reached, written⟩ := Bool.and_eq_true_iff.mp holds
  obtain ⟨content, present, other⟩ := Store.exists_of_hasFile written
  refine ⟨generation, store, content, success, of_decide_eq_true reached, present,
    of_decide_eq_true other, ?_⟩
  rintro ⟨names, nonempty, same⟩
  cases names with
  | nil => exact nonempty rfl
  | cons name names => simp at same

end Generation

end TypedClient
