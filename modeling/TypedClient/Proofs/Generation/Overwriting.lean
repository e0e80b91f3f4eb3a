import TypedClient.Proofs.Client.Rewriting
import TypedClient.Proofs.Files.Name
import TypedClient.Proofs.Generation.Confinement
import TypedClient.Proofs.Registry.Grouping

/-!
What is in the files of a generated client. The last file at a place is what is there; two files can
only have one place when a service has a name with slashes whose parts go up or stay in place, or a name
whose halves of pairs make up characters on disk.
-/

namespace TypedClient

namespace Path

/-- The text writes a path part by part: no part goes up, none is left out, and all are names on disk as
they are written. -/
def IsDirect (text : String) : Prop :=
  up ∉ partsOf text ∧ (ofText text).text = text ∧ ∀ part ∈ partsOf text, FileName.onDisk part = part

/-- Direct paths that lead from one directory to one place are the same. -/
theorem eq_of_locate_join {store : Store} {directory : Path} {first second : String}
    (relative : rootOf first = "" ∧ rootOf second = "") (direct : IsDirect first ∧ IsDirect second)
    (located : store.locate (directory.join first) = .ok location)
    (alsoLocated : store.locate (directory.join second) = .ok location) : first = second := by
  have joined {text : String} (relative : rootOf text = "") :
      directory.join text = ⟨directory.root, directory.parts ++ partsOf text⟩ := by
    simp [join, append, ofText, relative]
  rw [joined relative.1] at located
  rw [joined relative.2] at alsoLocated
  obtain ⟨here, reached, followed⟩ := Store.exists_locate_of_append located
  obtain ⟨_, alsoReached, alsoFollowed⟩ := Store.exists_locate_of_append alsoLocated
  cases reached.symm.trans alsoReached
  have down := Store.eq_of_follow followed direct.1.1
  have alsoDown := Store.eq_of_follow alsoFollowed direct.2.1
  rw [List.map_congr_left direct.1.2.2, List.map_id'] at down
  rw [List.map_congr_left direct.2.2.2, List.map_id'] at alsoDown
  have parts : partsOf first = partsOf second :=
    List.reverse_inj.mp (List.append_cancel_right (down.symm.trans alsoDown))
  calc first = (ofText first).text := direct.1.2.1.symm
    _ = (ofText second).text := by rw [ofText, ofText, relative.1, relative.2, parts]
    _ = second := direct.2.2.1

end Path

namespace Service

/-- The file of the service has a path with parts that go up or are left out, or with names that are others
on disk. -/
def Detours (service : Service) : Prop :=
  ('/' ∈ service.name.toList ∨ Text.spellingMark ∈ service.name.toList) ∧
    ¬Path.IsDirect service.relativePath

theorem isDirect_or_detours (service : Service) :
    Path.IsDirect service.relativePath ∨ service.Detours := by
  by_cases special : '/' ∈ service.name.toList ∨ Text.spellingMark ∈ service.name.toList
  · by_cases direct : Path.IsDirect service.relativePath
    · exact .inl direct
    · exact .inr ⟨special, direct⟩
  · obtain ⟨plain, unmarked⟩ := not_or.mp special
    obtain ⟨parts, named⟩ := partsOf_relativePath plain
    refine .inl ⟨?_, ?_, ?_⟩
    · have down : Path.up ≠ "services" := by decide
      simp [parts, Ne.symm named, down]
    · rw [Path.ofText, rootOf_relativePath, parts]
      simp [Path.text, relativePath, String.intercalate_cons_cons, String.append_assoc]
    · have fileUnmarked : Text.spellingMark ∉ (service.name ++ ".ts").toList := by
        rw [String.toList_append, List.mem_append, not_or]
        exact ⟨unmarked, by decide⟩
      rw [parts, List.forall_mem_cons, List.forall_mem_singleton]
      exact ⟨FileName.onDisk_of_unmarked (by decide), FileName.onDisk_of_unmarked fileUnmarked⟩

theorem relativePath_injective {service other : Service}
    (same : service.relativePath = other.relativePath) : service.name = other.name := by
  have characters := congrArg String.toList same
  simp only [relativePath, String.toList_append] at characters
  exact String.toList_injective
    (List.append_cancel_left (List.append_cancel_right characters))

end Service

namespace Client

/-- Every file of a client has a path of its own. -/
theorem relativePaths_nodup (compiled : compile document header = .ok client) :
    (client.files.map (·.relativePath)).Nodup := by
  obtain ⟨operations, services, _⟩ := services_of_compile compiled
  have serviceNames : (client.services.map (·.name)).Nodup :=
    services ▸ (Registry.groups_ofOperations operations).distinct
  have servicePaths : (client.services.map (·.relativePath)).Nodup := by
    rw [List.Nodup, List.pairwise_map] at serviceNames ⊢
    exact serviceNames.imp fun different same => different (Service.relativePath_injective same)
  have apart {name : String} (first : name.toList.head? ≠ some 's') :
      name ∉ client.services.map (·.relativePath) := by
    rintro member
    obtain ⟨service, _, rfl⟩ := List.mem_map.mp member
    simp [Service.relativePath] at first
  have all : client.files.map (·.relativePath) =
      "utils.ts" :: "models.ts" :: client.services.map (·.relativePath) := by
    obtain ⟨_, _, _, _, _, _, rfl⟩ := compile_eq_ok.mp compiled
    simp [sharedFile, modelsFile, Function.comp_def, Service.sourceFile]
  rw [all]
  refine List.nodup_cons.mpr ⟨?_, List.nodup_cons.mpr ⟨apart (by decide), servicePaths⟩⟩
  exact List.not_mem_cons_of_ne_of_not_mem (by decide) (apart (by decide))

theorem isDirect_of_mem_files (compiled : compile document header = .ok client)
    (member : file ∈ client.files) :
    Path.IsDirect file.relativePath ∨
      ∃ service ∈ client.services, service.Detours ∧ service.relativePath = file.relativePath := by
  obtain ⟨_, _, _, _, _, _, rfl⟩ := compile_eq_ok.mp compiled
  have fixed : ∀ name ∈ ["utils.ts", "models.ts"], Path.up ∉ Path.partsOf name ∧
      (Path.ofText name).text = name ∧ ∀ part ∈ Path.partsOf name, FileName.onDisk part = part := by
    decide
  rcases List.mem_cons.mp member with rfl | member
  · exact .inl (fixed "utils.ts" (by simp))
  · rcases List.mem_cons.mp member with rfl | member
    · exact .inl (fixed "models.ts" (by simp))
    · obtain ⟨service, present, rfl⟩ := List.mem_map.mp member
      exact service.isDirect_or_detours.imp id fun detours => ⟨service, present, detours, rfl⟩

/-- Two files of a client at one place are the same, or one is the file of a service that detours. -/
theorem eq_or_detours (compiled : compile document header = .ok client) (member : file ∈ client.files)
    (otherMember : other ∈ client.files)
    (located : Store.locate store (Path.join directory file.relativePath) = .ok location)
    (otherLocated : Store.locate store (Path.join directory other.relativePath) = .ok location) :
    other = file ∨ ∃ service ∈ client.services, service.Detours ∧
      (service.relativePath = file.relativePath ∨ service.relativePath = other.relativePath) := by
  rcases isDirect_of_mem_files compiled member with direct | ⟨service, present, detours, same⟩
  · rcases isDirect_of_mem_files compiled otherMember with otherDirect | ⟨service, present, detours, same⟩
    · left
      have relative := (relativePath_of_mem_files compiled member).1
      have otherRelative := (relativePath_of_mem_files compiled otherMember).1
      have samePath := Path.eq_of_locate_join ⟨otherRelative, relative⟩ ⟨otherDirect, direct⟩
        otherLocated located
      exact List.inj_on_of_nodup_map (relativePaths_nodup compiled) otherMember member samePath
    · exact .inr ⟨service, present, detours, .inr same⟩
  · exact .inr ⟨service, present, detours, .inl same⟩

end Client

namespace Generation

/-- After a run there is at the place of each file of the client the text of the last file at that
place, in UTF-8. This is the file itself, unless it or the last one is the file of a service that
detours. -/
theorem run_files_last (success : run world request = .ok generation store)
    (member : file ∈ generation.client.files) :
    ∃ location earlier final later,
      generation.client.files = earlier ++ final :: later ∧
      store.locate (request.outputDirectory.join file.relativePath) = .ok location ∧
      store.locate (request.outputDirectory.join final.relativePath) = .ok location ∧
      (∀ other ∈ later,
        store.locate (request.outputDirectory.join other.relativePath) ≠ .ok location) ∧
      (∃ octets, Text.utf8? final.render = some octets ∧
        store.entry? location = some (.file octets)) ∧
      (final = file ∨ ∃ service ∈ generation.client.services, service.Detours ∧
        (service.relativePath = file.relativePath ∨ service.relativePath = final.relativePath)) := by
  obtain ⟨client, written, made, wrote, rfl⟩ := run_eq_ok.mp success
  obtain ⟨document, header, compiled⟩ := compile_of_clientOf made
  obtain ⟨_, wroteAll, _⟩ := writeSources_eq_ok.mp wrote
  have isWritten := RenderedFile.written_of_writeAll wroteAll
  obtain ⟨location, before, last, after, split, located, lastLocated, alone, present⟩ :=
    isWritten.exists_last (List.mem_map_of_mem member)
  obtain ⟨earlier, rest, files, _, rendered⟩ := List.map_eq_append_iff.mp split
  obtain ⟨final, later, rfl, rfl, rfl⟩ := List.map_eq_cons_iff.mp rendered
  rw [RenderedFile.path_ofSource] at located lastLocated
  rw [RenderedFile.text_ofSource] at present
  simp only [List.forall_mem_map, RenderedFile.path_ofSource] at alone
  have finalMember : final ∈ client.files := files ▸ List.mem_append_cons_self
  exact ⟨location, earlier, final, later, files, located, lastLocated, alone, present,
    Client.eq_or_detours compiled member finalMember located lastLocated⟩

/-- A service that goes up to the models has its file in place of theirs. -/
theorem run_files_last_models : ∃ generation store file,
    run (worldOf "../models_list" []) outRequest = .ok generation store ∧
      file ∈ generation.client.files ∧ file.relativePath = "models.ts" ∧
      ∃ location earlier final later,
        generation.client.files = earlier ++ final :: later ∧
        store.locate (outRequest.outputDirectory.join file.relativePath) = .ok location ∧
        store.locate (outRequest.outputDirectory.join final.relativePath) = .ok location ∧
        (∀ other ∈ later,
          store.locate (outRequest.outputDirectory.join other.relativePath) ≠ .ok location) ∧
        (∃ octets, Text.utf8? final.render = some octets ∧
          store.entry? location = some (.file octets)) ∧
        (final = file ∨ ∃ service ∈ generation.client.services, service.Detours ∧
          (service.relativePath = file.relativePath ∨
            service.relativePath = final.relativePath)) := by
  have evaluated : Action.succeedsWith
      (fun generation _ => decide ("models.ts" ∈ generation.client.files.map (·.relativePath)))
      (run (worldOf "../models_list" []) outRequest) = true := by decide +kernel
  obtain ⟨generation, store, success, found⟩ := Action.exists_of_succeedsWith evaluated
  obtain ⟨file, member, named⟩ := List.mem_map.mp (of_decide_eq_true found)
  exact ⟨generation, store, file, success, member, named, run_files_last success member⟩

/-- The file holds something else than its text. -/
def isLost (store : Store) (request : Request) (file : SourceFile) : Bool :=
  match store.read (request.outputDirectory.join file.relativePath) with
  | .ok content => decide ((Text.utf8? file.render).map (·.data) ≠ some content.data)
  | .error _ => false

/-- A service that goes up to the shared declarations has its file in place of theirs. -/
theorem run_overwrites_shared : ∃ generation store file content,
    run (worldOf "../utils_get" []) outRequest = .ok generation store ∧
      file ∈ generation.client.files ∧ file.relativePath = "utils.ts" ∧
      store.read (outRequest.outputDirectory.join file.relativePath) = .ok content ∧
      Text.utf8? file.render ≠ some content := by
  have evaluated : Action.succeedsWith
      (fun generation store => generation.client.files.any fun file =>
        file.relativePath == "utils.ts" && isLost store outRequest file)
      (run (worldOf "../utils_get" []) outRequest) = true := by decide +kernel
  obtain ⟨generation, store, success, holds⟩ := Action.exists_of_succeedsWith evaluated
  obtain ⟨file, member, lost⟩ := List.any_eq_true.mp holds
  obtain ⟨named, lost⟩ := Bool.and_eq_true_iff.mp lost
  unfold isLost at lost
  split at lost
  · rename_i content found
    exact ⟨generation, store, file, content, success, member, eq_of_beq named, found,
      mt (congrArg (Option.map ByteArray.data)) (of_decide_eq_true lost)⟩
  · cases lost

end Generation

end TypedClient
