import TypedClient.Document.Load
import TypedClient.Proofs.Json.Proper
import TypedClient.Proofs.Yaml.Graph.Value

namespace TypedClient.Document

theorem isProper_parse (found : parse source text isJson = .ok value) : value.IsProper := by
  unfold parse at found
  split at found
  · exact Json.isProper_read (Outcome.mapError_eq_ok.mp found)
  · exact Yaml.isProper_read (Outcome.mapError_eq_ok.mp found)

theorem isProper_readFile (found : readFile store path = .ok value) : value.IsProper := by
  obtain ⟨content, _, found⟩ := Outcome.bind_eq_ok.mp found
  unfold ofContent at found
  split at found
  · exact isProper_parse found
  · cases found

theorem isProper_fetch (found : fetch web redirects url = .ok value) : value.IsProper := by
  obtain ⟨_, _, found⟩ := Outcome.bind_eq_ok.mp found
  obtain ⟨_, _, found⟩ := Outcome.bind_eq_ok.mp found
  exact isProper_parse found

theorem isProper_loadValue (found : loadValue store web redirects location = .ok value) :
    value.IsProper := by
  unfold loadValue at found
  split at found
  · exact isProper_fetch found
  · exact isProper_readFile found

/-- A document that is loaded is proper. -/
theorem isProper_load (found : load store web redirects location = .ok document) :
    (Value.mapping document).IsProper := by
  obtain ⟨value, loaded, isMapping⟩ := Outcome.bind_eq_ok.mp found
  unfold entriesOf at isMapping
  split at isMapping
  · rename_i entries found
    cases isMapping
    obtain ⟨distinct, each⟩ := (isProper_loadValue loaded).of_entries? found
    exact ⟨distinct, Value.entriesAreProper_iff.mpr each⟩
  · cases isMapping

end TypedClient.Document
