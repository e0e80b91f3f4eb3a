import Mathlib.Data.List.Flatten
import TypedClient.Proofs.Client.Report
import TypedClient.Proofs.Text.Characters

namespace TypedClient

namespace Report

/-- A malformed reference stands in a model or in a method of a service. -/
def Malformed (models : List Model) (services : List Service) (address : List Nat)
    (reference : DanglingReference) : Prop :=
  StandsIn models services address reference ∧ reference.name = ""

/-- The line that a malformed reference is named on; of a place with line feeds it has the end. -/
def malformedLine (reference : DanglingReference) : String :=
  Text.lastLine ("- " ++ reference.location) ++ ": <malformed, rendered as unknown>"

theorem enumerates_malformed (models : List Model) (services : List Service) :
    Enumerates (Malformed models services)
      ((referencePlaces models services).filter fun reference => reference.name = "") :=
  (enumerates_referencePlaces models services).filter fun reference => reference.name = ""

/-- The empty name is dangling for all malformed references or for none. -/
theorem malformed_dangling (models : List Model) (services : List Service) :
    (ofClient models services).dangling.filter (fun reference => reference.name = "") =
      if "" ∈ models.map (·.name) then []
      else (referencePlaces models services).filter fun reference => reference.name = "" := by
  rw [Client.dangling_eq_filter, List.filter_filter]
  split
  · rename_i known
    refine List.filter_eq_nil_iff.mpr fun reference _ => ?_
    simp only [Bool.and_eq_true, decide_eq_true_iff]
    rintro ⟨empty, unknown⟩
    exact unknown (empty ▸ known)
  · rename_i unknown
    refine List.filter_congr fun reference _ => ?_
    by_cases empty : reference.name = ""
    · simp [empty, unknown]
    · simp [empty]

theorem malformedLine_mem (malformed : reference.name = "") :
    malformedLine reference ∈ Text.lines (line reference) := by
  have target : line reference = "- " ++ reference.location ++ ": <malformed, rendered as unknown>" := by
    simp [line, malformed, TypeExpr.unknownText, String.append_assoc]
  have plain : ∀ c ∈ ": <malformed, rendered as unknown>".toList, c ≠ '\n' := by simp
  rw [target]
  exact Text.lastLine_append_mem _ plain

/-- Among the lines of a report each malformed reference that is reported has a line of its own. -/
theorem malformedLines_sublist (report : Report) :
    ((report.dangling.filter fun reference => reference.name = "").map malformedLine).Sublist
      (Text.lines report.text) := by
  have own : ((report.dangling.filter fun reference => reference.name = "").map malformedLine).Sublist
      ((report.dangling.filter fun reference => reference.name = "").flatMap
        fun reference => Text.lines (line reference)) := by
    rw [List.map_eq_flatMap]
    refine .flatMap_right _ fun reference member => List.singleton_sublist.mpr ?_
    exact malformedLine_mem (of_decide_eq_true (List.mem_filter.mp member).2)
  rw [text, Text.lines_unlines_eq_flatMap, List.flatMap_cons, List.flatMap_cons, List.flatMap_map]
  have all := own.trans (List.filter_sublist.flatMap fun reference => Text.lines (line reference))
  exact (all.trans (List.sublist_append_right _ _)).trans (List.sublist_append_right _ _)

end Report

namespace Client

/-- Every malformed reference of a client is written as the unknown type. Unless a component schema has
the empty name, the report has an entry for each of them, in order, and its text a line for each, which
tells that it is malformed. If a component schema has the empty name, none of them is reported. -/
theorem malformed_reported (compiled : compile document header = .ok client) :
    let report := Report.ofClient client.models client.services
    let nameless := "" ∈ (Document.componentSchemas document).map (·.1)
    ∃ malformed, Enumerates (Report.Malformed client.models client.services) malformed ∧
      (∀ indent, TypeExpr.render indent (.ref "") = "unknown") ∧
      (nameless → ∀ reference ∈ report.dangling, reference.name ≠ "") ∧
      (¬nameless →
        (report.dangling.filter fun reference => reference.name = "") = malformed ∧
        (malformed.map Report.malformedLine).Sublist (Text.lines report.text)) := by
  intro report nameless
  have names : client.models.map (·.name) = (Document.componentSchemas document).map (·.1) := by
    obtain ⟨_, models, _, _, typed, _, rfl⟩ := compile_eq_ok.mp compiled
    exact names_of_ofDocument typed
  have entries := Report.malformed_dangling client.models client.services
  rw [names] at entries
  refine ⟨_, Report.enumerates_malformed client.models client.services, fun _ => rfl, ?_, ?_⟩
  · intro known reference member empty
    rw [if_pos known] at entries
    exact List.filter_eq_nil_iff.mp entries reference member (decide_eq_true empty)
  · intro unknown
    rw [if_neg unknown] at entries
    exact ⟨entries, entries ▸ Report.malformedLines_sublist report⟩

/-- A document with these component schemas and without operations. -/
def schemaDocument (schemas : Entries) : Entries :=
  [(.text "paths", .mapping []), (.text "components", .mapping [(.text "schemas", .mapping schemas)])]

/-- The schema of a page, with an array that has no elements given and with a reference to nothing. -/
def pageSchema : Entries :=
  let next := [(.text "$ref", .text "#/components/schemas/")]
  [(.text "type", .text "object"), (.text "properties", .mapping
    [(.text "items", .mapping [(.text "type", .text "array")]), (.text "next", .mapping next)])]

theorem malformed_reported_page :
    ∃ client, compile (schemaDocument [(.text "Page", .mapping pageSchema)]) [] = .ok client ∧
      Report.ofClient client.models client.services =
        ⟨2, [⟨"models.Page", ""⟩, ⟨"models.Page", ""⟩]⟩ ∧
      ["- models.Page: <malformed, rendered as unknown>",
        "- models.Page: <malformed, rendered as unknown>"].Sublist
          (Text.lines (Report.ofClient client.models client.services).text) := by
  have evaluated : (compile (schemaDocument [(.text "Page", .mapping pageSchema)]) []).toOption.map
      (fun client => Report.ofClient client.models client.services) =
        some ⟨2, [⟨"models.Page", ""⟩, ⟨"models.Page", ""⟩]⟩ := by decide +kernel
  obtain ⟨client, compiled, reported⟩ := Outcome.map_toOption_eq_some.mp evaluated
  obtain ⟨malformed, _, _, _, found⟩ := malformed_reported compiled
  obtain ⟨entries, lines⟩ := found (by decide +kernel)
  rw [reported] at entries
  have both : malformed = [⟨"models.Page", ""⟩, ⟨"models.Page", ""⟩] := entries.symm
  have named : Report.malformedLine ⟨"models.Page", ""⟩ =
      "- models.Page: <malformed, rendered as unknown>" := by decide +kernel
  refine ⟨client, compiled, reported, ?_⟩
  rw [both] at lines
  simpa only [List.map_cons, List.map_nil, named] using lines

/-- A component schema under the empty name hides that another one is malformed. -/
theorem malformed_hidden :
    ∃ client address reference,
      compile (schemaDocument [(.text "", .mapping [(.text "type", .text "string")]),
        (.text "Page", .mapping [])]) [] = .ok client ∧
      Report.Malformed client.models client.services address reference ∧
      Report.ofClient client.models client.services = ⟨1, []⟩ ∧
      Report.malformedLine reference ∉
        Text.lines (Report.ofClient client.models client.services).text := by
  let models : List Model := [⟨"", .string⟩, ⟨"Page", .ref ""⟩]
  have reported : Report.ofClient models [] = ⟨1, []⟩ := by decide +kernel
  have unnamed : Report.malformedLine ⟨"models.Page", ""⟩ ∉ Text.lines (Report.ofClient models []).text := by
    decide +kernel
  have declared : models[1]? = some ⟨"Page", .ref ""⟩ := rfl
  have stands : Report.StandsIn models [] [0, 1] ⟨"models." ++ "Page", ""⟩ := .model declared .ref
  exact ⟨_, [0, 1], ⟨"models.Page", ""⟩, compile_eq_ok.mpr ⟨[], models, [], rfl, rfl, rfl, rfl⟩,
    ⟨stands, rfl⟩, reported, unnamed⟩

end Client

end TypedClient
