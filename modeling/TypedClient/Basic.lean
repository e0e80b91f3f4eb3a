/-!
Association lists in order, and what a person is told about a failure. Writing to a key that is present
replaces the value and keeps the place, so of repeated keys the last value stands at the first position.
-/

namespace TypedClient

/-- Writes to a key of an association list: the value of the first equal key is replaced, and a new
key comes last. -/
def upsert (same : κ → κ → Bool) (key : κ) (value : α) : List (κ × α) → List (κ × α)
  | [] => [(key, value)]
  | (k, v) :: rest =>
    if same k key then (k, value) :: rest else (k, v) :: upsert same key value rest

/-- Writes entries one after another into an empty association list. -/
def collapse (same : κ → κ → Bool) (entries : List (κ × α)) : List (κ × α) :=
  entries.foldl (fun written entry => upsert same entry.1 entry.2 written) []

/-- What is said about a failure: what failed, and, apart from it, the detail. -/
structure Complaint where
  headline : String
  detail : Option String
  deriving DecidableEq, Repr

namespace Complaint

def text (complaint : Complaint) : String :=
  complaint.headline ++ complaint.detail.getD ""

/-- A complaint without a detail of its own. -/
def plain (text : String) : Complaint :=
  ⟨text, none⟩

end Complaint

end TypedClient
