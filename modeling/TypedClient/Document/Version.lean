import TypedClient.Number.Numeral
import TypedClient.Text.Pieces
import TypedClient.Value.Basic

namespace TypedClient

inductive VersionError where
  | missing
  | unreadable (version : String)
  | unsupported (version : String)
  deriving DecidableEq, Repr

namespace VersionError

def message : VersionError → String
  | missing => "Missing or invalid 'openapi' version field"
  | unreadable version => "Unable to parse OpenAPI version: " ++ version
  | unsupported version => "Unsupported OpenAPI version " ++ version ++ "; only v3 is supported"

end VersionError

namespace Document

/-- The declared version without blanks around it. -/
def version (document : Entries) : Except VersionError String :=
  match Entries.field document "openapi" with
  | .text declared =>
    let trimmed := Text.trim declared
    if trimmed.isEmpty then .error .missing else .ok trimmed
  | _ => .error .missing

def majorPart (version : String) : List Char :=
  version.toList.takeWhile (· != '.')

/-- Refuses every version but the third. -/
def ensureSupported (version : String) : Except VersionError Unit :=
  match Numeral.readInt? 10 (majorPart version) with
  | some 3 => .ok ()
  | some _ => .error (.unsupported version)
  | none => .error (.unreadable version)

end Document

end TypedClient
