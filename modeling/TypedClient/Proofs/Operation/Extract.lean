import TypedClient.Operation.Extract
import TypedClient.Proofs.Outcome

namespace TypedClient.Operation

/-- Reading an operation succeeds when its parameter objects can be merged and read and its contents have
types; the operation then holds what its parts give. -/
theorem extract_eq_ok {rawPath httpMethod : String} {entries : Entries}
    {pathParameters : List Value} {operation : Operation} :
    extract rawPath httpMethod entries pathParameters = .ok operation ↔
      ∃ merged parameters skipped body response,
        Parameter.merge pathParameters (fieldItems entries "parameters") = .ok merged ∧
        Parameter.readAll merged = .ok (parameters, skipped) ∧
        Content.ofRequest entries = .ok body ∧
        Content.ofResponses entries = .ok response ∧
        operation = {
          rawPath, httpMethod, parameters, body, response, skipped
          serviceName := (namesOf (Entries.field entries "operationId")).1
          methodName := (namesOf (Entries.field entries "operationId")).2 } := by
  simp only [extract, Outcome.bind_eq_ok, Outcome.pure_eq_ok, Prod.exists]
  constructor
  · rintro ⟨merged, isMerged, parameters, skipped, read, body, isBody, response, isResponse, rfl⟩
    exact ⟨merged, parameters, skipped, body, response, isMerged, read, isBody, isResponse, rfl⟩
  · rintro ⟨merged, parameters, skipped, body, response, isMerged, read, isBody, isResponse, rfl⟩
    exact ⟨merged, isMerged, parameters, skipped, read, body, isBody, response, isResponse, rfl⟩

/-- An operation that some operation object declares on some path. -/
def Declared (operation : Operation) : Prop :=
  ∃ rawPath httpMethod entries pathParameters,
    extract rawPath httpMethod entries pathParameters = .ok operation

end TypedClient.Operation
