import TypedClient.CommandLine.Run
import TypedClient.Proofs.Client.Report
import TypedClient.Proofs.Generation.Breaking

/-!
The exit status of the program. It is one of three unless the program breaks off: for an option that is
left without a value, with the generation of a client, or at a line that cannot be printed.
-/

namespace TypedClient

/-- A reference in a model or in a method names no model. -/
def Client.HasDangling (client : Client) : Prop :=
  ∃ address reference, Report.StandsIn client.models client.services address reference ∧
    reference.name ∉ client.models.map (·.name)

theorem Client.isEmpty_dangling {client : Client} :
    (Generation.reportOf client).dangling.isEmpty = false ↔ client.HasDangling := by
  obtain ⟨placed, all, _, stands⟩ := Report.enumerates_referencePlaces client.models client.services
  rw [List.isEmpty_eq_false_iff_exists_mem, Generation.reportOf, dangling_eq_filter, ← all, HasDangling]
  simp only [List.mem_filter, List.mem_map, decide_eq_true_iff, ← stands]
  constructor
  · rintro ⟨_, ⟨⟨address, reference⟩, present, rfl⟩, unknown⟩
    exact ⟨address, reference, present, unknown⟩
  · rintro ⟨address, reference, present, unknown⟩
    exact ⟨reference, ⟨(address, reference), present, rfl⟩, unknown⟩

namespace CommandLine

namespace Settings

@[simp]
theorem give_verifies (settings : Settings) (flag : Flag) (given : Given) :
    (settings.give flag given).verifies = settings.verifies := by
  cases flag <;> rfl

@[simp]
theorem leave_verifies (settings : Settings) (word : String) :
    (settings.leave word).verifies = settings.verifies :=
  rfl

theorem setFlag_verifies {settings : Settings} {flag : Flag} :
    (settings.setFlag flag).verifies = true ↔ settings.verifies = true ∨ flag = .verify := by
  cases flag <;> simp [setFlag]

end Settings

/-- An option stands alone among the words of a command line. -/
def Gives (arguments : List String) (flag : Flag) : Prop :=
  ∃ words, classifyAll arguments = .ok words ∧ .option flag none ∈ words

theorem obey_verifies {settings final : Settings} {words : List Word}
    (obeyed : obey settings words = .ok (some final)) :
    final.verifies = true ↔ settings.verifies = true ∨ .option .verify none ∈ words := by
  induction settings, words using obey.induct with
  | case1 settings =>
    cases obeyed
    simp
  | case2 settings word rest ih | case3 settings word rest ih =>
    simpa using ih obeyed
  | case4 settings rest ih => simpa using ih obeyed
  | case5 settings letters rest =>
    rw [obey, Outcome.bind_eq_ok] at obeyed
    obtain ⟨_, _, ⟨⟩⟩ := obeyed
  | case6 settings flag value rest takes ih =>
    rw [obey, if_pos takes] at obeyed
    simpa using ih obeyed
  | case7 settings flag value rest takesNone =>
    rw [obey, if_neg takesNone] at obeyed
    cases obeyed
  | case8 settings flag takes value rest ih =>
    have other : flag ≠ .verify := by
      rintro rfl
      cases takes
    rw [obey, if_pos takes] at obeyed
    simpa [other.symm] using ih obeyed
  | case9 settings flag rest takes noOperand =>
    rw [obey, if_pos takes] at obeyed
    · cases obeyed
    · exact noOperand
  | case10 settings rest takesNone =>
    unfold obey at obeyed
    rw [if_neg takesNone, if_pos rfl] at obeyed
    cases obeyed
  | case11 settings flag rest takesNone notHelp ih =>
    unfold obey at obeyed
    rw [if_neg takesNone, if_neg notHelp] at obeyed
    rw [ih obeyed, Settings.setFlag_verifies, or_assoc, List.mem_cons, Word.option.injEq]
    simp only [and_true, @eq_comm _ flag]

/-- The request of a command line asks for verification when the option does. -/
theorem parse_verifies (asked : parse arguments = .ok (.generate request)) :
    request.verifies = true ↔ Gives arguments .verify := by
  simp only [parse, Outcome.bind_eq_ok] at asked
  obtain ⟨words, classified, settings, obeyed, asked⟩ := asked
  have gives : Gives arguments .verify ↔ .option .verify none ∈ words := by
    simp [Gives, classified]
  cases settings with
  | none => cases asked
  | some settings =>
    have same : request.verifies = settings.verifies := by
      change settings.command = _ at asked
      unfold Settings.command at asked
      grind
    rw [same, gives, obey_verifies obeyed]
    simp [Settings.initial]

/-- How the program breaks off: an option is left without a value, generating a client breaks off, or there
is a client and a line about it holds a half of a pair. -/
def BreaksOff (world : World) (arguments : List String) : Prop :=
  parse arguments = .ok .valueless ∨
    ∃ request, parse arguments = .ok (.generate request) ∧
      (Generation.BreaksOff world request ∨ ∃ generation store,
        Generation.run world request = .ok generation store ∧
          ∃ line ∈ summary generation, Text.utf8? line = none)

theorem status?_endingOf (generation : Generation) :
    ((endingOf generation).status? = none ∧ ∃ line ∈ summary generation, Text.utf8? line = none) ∨
      (endingOf generation).status? =
          some (if (generation.report.map fun report => !report.dangling.isEmpty).getD false then 1 else 0) ∧
        ¬∃ line ∈ summary generation, Text.utf8? line = none := by
  cases printed : (summary generation).all isPrinted with
  | false =>
    refine .inl ⟨by simp [endingOf, printed, Ending.status?], ?_⟩
    simpa [isPrinted] using printed
  | true =>
    refine .inr ⟨by simp [endingOf, printed, Ending.status?], ?_⟩
    simpa [isPrinted, Option.isSome_iff_ne_none] using printed

theorem status_of_generate (asked : parse arguments = .ok (.generate request))
    (success : Generation.run world request = .ok generation store) :
    ((run world arguments).ending.status? = none ∧ ∃ line ∈ summary generation, Text.utf8? line = none) ∨
      (¬∃ line ∈ summary generation, Text.utf8? line = none) ∧
        ((run world arguments).ending.status? = some 1 ∧ Gives arguments .verify ∧
            generation.client.HasDangling ∨
          (run world arguments).ending.status? = some 0 ∧
            ¬(Gives arguments .verify ∧ generation.client.HasDangling)) := by
  have ending : (run world arguments).ending = endingOf generation := by
    simp only [run, asked, generate, success]
  rw [ending]
  refine (status?_endingOf generation).imp_right ?_
  rintro ⟨ends, printed⟩
  refine ⟨printed, ?_⟩
  obtain ⟨client, written, _, _, rfl⟩ := Generation.run_eq_ok.mp success
  rw [ends, ← parse_verifies asked, ← Client.isEmpty_dangling]
  cases verifies : request.verifies with
  | false => simp [Generation.ofClient, verifies]
  | true =>
    cases none : (Generation.reportOf client).dangling.isEmpty with
    | false => simp [Generation.ofClient, verifies, none]
    | true => simp [Generation.ofClient, verifies, none]

/-- A world with one file, a document that is not in UTF-8. -/
def unreadableWorld : World where
  store := ⟨[(["spec.yaml"], .file ⟨#[0xFF]⟩)], []⟩
  web := []
  redirects := 0

end CommandLine

end TypedClient
