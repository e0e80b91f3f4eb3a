import TypedClient.Proofs.Client.Faults
import TypedClient.Proofs.Document.Loading
import TypedClient.Proofs.Generation.Confinement

/-!
How generating a client breaks off without a report: a document cannot be loaded or compiled for a reason
that nothing reports, a path cannot be used at all, or a text cannot be encoded.
-/

namespace TypedClient

namespace Client

/-- Whether and why a document does not compile is the same for every header. -/
theorem compile_eq_error_of_header (failed : compile document header = .error cause)
    (other : List String) : compile document other = .error cause := by
  simp only [compile, Outcome.bind_eq_error] at failed ⊢
  refine failed.imp_right ?_
  rintro ⟨paths, read, failed⟩
  refine ⟨paths, read, failed.imp_right ?_⟩
  rintro ⟨models, typed, failed⟩
  refine ⟨models, typed, failed.imp_right ?_⟩
  rintro ⟨_, _, ⟨⟩⟩

/-- Compiling fails without a report when the first path item at fault has a misplaced parameter object,
and when it meets a limit. -/
theorem compile_breaksOff :
    Outcome.Fails (fun cause => (GenerationError.compile cause).isReported = false)
        (compile document header) ↔
      FirstFault (Document.pathItems document) .compositePlace ∨
        ∃ limit : Limit, compile document header = .error limit.cause := by
  have unreported {cause : CompileError} : (GenerationError.compile cause).isReported = false ↔
      cause = .compositePlace ∨ ∃ limit : Limit, cause = limit.cause := by
    constructor
    · cases cause with
      | compositePlace => exact fun _ => .inl rfl
      | unwritable => exact fun _ => .inr ⟨.digits, rfl⟩
      | endless => exact fun _ => .inr ⟨.depth, rfl⟩
      | _ => simp [GenerationError.isReported]
    · rintro (rfl | ⟨limit, rfl⟩)
      · rfl
      · cases limit <;> rfl
  have items {entries : Entries} (mapping : (Entries.field document "paths").entries? = some entries) :
      Document.pathItems document = entries.filterMap Document.pathEntry? := by
    rw [Document.pathItems, mapping]
    rfl
  simp only [Outcome.Fails, unreported]
  constructor
  · rintro ⟨_, failed, rfl | ⟨limit, rfl⟩⟩
    · cases mapping : (Entries.field document "paths").entries? with
      | none => cases (compile_eq_noPaths.mpr mapping).symm.trans failed
      | some entries =>
        have judged := compile_judged mapping header
        rw [failed, ← items mapping] at judged
        refine .inl (judged.resolve_right ?_)
        rintro ⟨limit, same, _⟩
        cases limit <;> cases same
    · exact .inr ⟨limit, failed⟩
  · rintro (fault | ⟨limit, failed⟩)
    · cases mapping : (Entries.field document "paths").entries? with
      | none =>
        rw [Document.pathItems, mapping] at fault
        cases fault
      | some entries =>
        have judged := compile_judged mapping header
        rw [← items mapping] at judged
        cases outcome : compile document header with
        | ok client => exact absurd fault (judged.sound outcome _)
        | error cause =>
          rw [outcome] at judged
          exact ⟨cause, rfl, judged.imp (fun first => first.unique fault)
            (Exists.imp fun _ => And.left)⟩
    · exact ⟨_, failed, .inr ⟨limit, rfl⟩⟩

end Client

namespace RenderedFile

/-- Writing the file breaks off: no file has the path of its directory, or else there are directories for it,
and no file has its own path, or it is opened and its text cannot be encoded. -/
def BreaksOff (file : RenderedFile) (store : Store) : Prop :=
  file.path.parent.IsUnusable ∨
    ∃ ready, Store.makeDirectories file.path.parent store = .ok () ready ∧
      (file.path.IsUnusable ∨ Text.utf8? file.text = none ∧
        ∃ opened, Store.write file.path .empty ready = .ok () opened)

theorem write_breaksOff {file : RenderedFile} :
    (∃ cause after, file.write store = .error cause after ∧ cause.isReported = false) ↔
      file.BreaksOff store := by
  have unusable {cause : PathError} (unreported : (cause != .unusable) = false) : cause = .unusable := by
    simpa using unreported
  simp only [write_eq_error, BreaksOff]
  constructor
  · rintro ⟨_, after, ⟨cause, notMade, rfl⟩ | ⟨ready, made, ⟨cause, notWritten, rfl⟩ | ⟨text, opened, _⟩⟩,
      unreported⟩
    · cases unusable unreported
      exact .inl (Store.makeDirectories_eq_unusable.mp notMade).1
    · cases unusable unreported
      exact .inr ⟨ready, made, .inl (Store.write_eq_unusable.mp notWritten).1⟩
    · exact .inr ⟨ready, made, .inr ⟨text, after, opened⟩⟩
  · rintro (refused | ⟨ready, made, refused | ⟨text, opened, written⟩⟩)
    · exact ⟨_, store, .inl ⟨_, Store.makeDirectories_eq_unusable.mpr ⟨refused, rfl⟩, rfl⟩, rfl⟩
    · have notWritten : Store.write file.path file.content ready = .error .unusable ready :=
        Store.write_eq_unusable.mpr ⟨refused, rfl⟩
      exact ⟨_, ready, .inr ⟨ready, made, .inl ⟨_, notWritten, rfl⟩⟩, rfl⟩
    · exact ⟨_, opened, .inr ⟨ready, made, .inr ⟨text, written, rfl⟩⟩, rfl⟩

/-- When a file cannot be written after the files before it, writing fails there. -/
theorem writeAll_of_error {earlier later : List RenderedFile}
    (written : writeAll earlier store = .ok () middle) (failed : file.write middle = .error cause after) :
    writeAll (earlier ++ file :: later) store = .error cause after := by
  induction earlier generalizing store with
  | nil =>
    cases written
    exact Action.bind_eq_error.mpr (.inl failed)
  | cons first rest ih =>
    obtain ⟨_, next, firstWritten, restWritten⟩ := Action.bind_eq_ok.mp written
    exact Action.bind_eq_error.mpr (.inr ⟨(), next, firstWritten, ih restWritten⟩)

end RenderedFile

namespace Generation

/-- How generating a client breaks off. -/
inductive BreaksOff (world : World) (request : Request) : Prop where
  | loading (breaksOff : Document.BreaksOff world.store world.web world.redirects request.document) :
      BreaksOff world request
  /-- A document of a supported version has a misplaced parameter object, or compiling it meets a limit: an
  integer of too many digits in a place where its text is needed, or a collection that holds itself where
  it is followed without end. -/
  | compiling (loaded : Document.load world.store world.web world.redirects request.document =
        .ok document)
      (declared : Document.version document = .ok version)
      (supported : Document.ensureSupported version = .ok ())
      (unreadable : Client.FirstFault (Document.pathItems document) .compositePlace ∨
        ∃ limit : Limit, Client.compile document [] = .error limit.cause) : BreaksOff world request
  /-- The path of the output directory is too long to tell whether it is there. -/
  | looking {client : Client} (made : clientOf world request = .ok client)
      (tooLong : world.store.find request.outputDirectory = .error .tooLong) : BreaksOff world request
  /-- All files before one are written, and writing that one breaks off. -/
  | writing {client : Client} (made : clientOf world request = .ok client)
      (accepted : checkOutputDirectory world.store request.outputDirectory = .ok ())
      (files : client.files = earlier ++ file :: later)
      (written : RenderedFile.writeAll (earlier.map (.ofSource request.outputDirectory)) world.store =
        .ok () middle)
      (breaksOff : (RenderedFile.ofSource request.outputDirectory file).BreaksOff middle) :
      BreaksOff world request

theorem clientOf_breaksOff :
    Outcome.Fails (fun cause => cause.isReported = false) (clientOf world request) ↔
      Document.BreaksOff world.store world.web world.redirects request.document ∨
        ∃ document, Document.load world.store world.web world.redirects request.document = .ok document ∧
          ∃ version, Document.version document = .ok version ∧
            Document.ensureSupported version = .ok () ∧
            (Client.FirstFault (Document.pathItems document) .compositePlace ∨
              ∃ limit : Limit, Client.compile document [] = .error limit.cause) := by
  have version {α : Type} (step : Except VersionError α) :
      ¬Outcome.Fails (fun cause => (GenerationError.version cause).isReported = false) step := by
    rintro ⟨_, _, ⟨⟩⟩
  have same (document : Entries) (header : List String) (limit : Limit) :
      Client.compile document header = .error limit.cause ↔
        Client.compile document [] = .error limit.cause :=
    ⟨fun failed => Client.compile_eq_error_of_header failed [],
      fun failed => Client.compile_eq_error_of_header failed header⟩
  simp only [clientOf, ofDocument, Outcome.fails_bind, Outcome.fails_mapError, Outcome.mapError_eq_ok,
    Client.compile_breaksOff, version, false_or, same, Unique.exists_iff]
  exact or_congr_left Document.load_breaksOff

/-- A run fails without a report exactly when it breaks off. -/
theorem run_breaksOff :
    (∃ cause store, run world request = .error cause store ∧ cause.isReported = false) ↔
      BreaksOff world request := by
  constructor
  · rintro ⟨_, store, failure, unreported⟩
    rcases run_eq_error.mp failure with ⟨failed, _⟩ | ⟨client, cause, made, failed, rfl⟩
    · rcases clientOf_breaksOff.mp ⟨_, failed, unreported⟩ with
        breaksOff | ⟨document, loaded, version, declared, supported, unreadable⟩
      · exact .loading breaksOff
      · exact .compiling loaded declared supported unreadable
    · rcases writeSources_eq_error.mp failed with ⟨refused, _⟩ | ⟨accepted, notWritten⟩
      · rcases checkOutputDirectory_eq_error.mp refused with ⟨rfl, _⟩ | ⟨_, tooLong⟩
        · cases unreported
        · exact .looking made tooLong
      · obtain ⟨_, _, _, middle, files, written, failed⟩ := RenderedFile.writeAll_error notWritten
        obtain ⟨earlier, rest, split, rfl, rendered⟩ := List.map_eq_append_iff.mp files
        obtain ⟨file, later, rfl, rfl, _⟩ := List.map_eq_cons_iff.mp rendered
        exact .writing made accepted split written
          (RenderedFile.write_breaksOff.mp ⟨cause, store, failed, unreported⟩)
  · have ofClient (breaksOff : Outcome.Fails (fun cause => cause.isReported = false)
        (clientOf world request)) : ∃ cause store, run world request = .error cause store ∧
          cause.isReported = false := by
      obtain ⟨cause, failed, unreported⟩ := breaksOff
      exact ⟨cause, world.store, run_eq_error.mpr (.inl ⟨failed, rfl⟩), unreported⟩
    rintro (breaksOff | ⟨loaded, declared, supported, unreadable⟩ | ⟨made, tooLong⟩ |
      ⟨made, accepted, files, written, breaksOff⟩)
    · exact ofClient (clientOf_breaksOff.mpr (.inl breaksOff))
    · exact ofClient (clientOf_breaksOff.mpr (.inr ⟨_, loaded, _, declared, supported, unreadable⟩))
    · have refused := checkOutputDirectory_eq_error.mpr (.inr ⟨rfl, tooLong⟩)
      exact ⟨_, _, run_eq_error.mpr (.inr ⟨_, _, made, writeSources_of_refused refused, rfl⟩), rfl⟩
    · obtain ⟨cause, store, failed, unreported⟩ := RenderedFile.write_breaksOff.mpr breaksOff
      refine ⟨.write cause, store, run_eq_error.mpr (.inr ⟨_, cause, made, ?_, rfl⟩), unreported⟩
      refine writeSources_eq_error.mpr (.inr ⟨accepted, ?_⟩)
      rw [files, List.map_append, List.map_cons]
      exact RenderedFile.writeAll_of_error written failed

end Generation

end TypedClient
