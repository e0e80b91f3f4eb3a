import TypedClient.CommandLine.Options
import TypedClient.CommandLine.Usage
import TypedClient.Generation

/-!
Running the program. It ends with status 0, with status 1 when a report is asked for and a reference
is dangling, and with status 2 and a complaint when the command line or the generation is refused. What
it prints is in UTF-8.
-/

namespace TypedClient.CommandLine

inductive Ending where
  | finished (output : String) (hasDangling : Bool)
  | misused (error : UsageError)
  | refused (error : GenerationError)
  /-- The program breaks off without a status of its own. -/
  | broken (error : GenerationError)
  /-- The program breaks off in front of a line that cannot be printed. -/
  | interrupted (output : String)
  deriving DecidableEq, Repr

namespace Ending

/-- The exit status, unless the program breaks off. -/
def status? : Ending → Option Nat
  | finished _ hasDangling => some (if hasDangling then 1 else 0)
  | misused _ | refused _ => some 2
  | broken _ | interrupted _ => none

def output : Ending → String
  | finished output _ | interrupted output => output
  | _ => ""

def complaint? : Ending → Option Complaint
  | misused error => some (.plain error.message)
  | refused error => some error.complaint
  | _ => none

/-- What the program prints as a complaint. There halves of pairs are escaped. -/
def errorOutput (ending : Ending) : String :=
  (ending.complaint?.map fun complaint => Text.withoutHalves (refusal complaint.text)).getD ""

end Ending

/-- A run of the program: the store it leaves, the addresses it asked, and how it ends. -/
structure Run where
  store : Store
  requests : List String
  ending : Ending

/-- The lines about a generated client. -/
def summary (generation : Generation) : List String :=
  let client := generation.client
  let warnings := client.warnings.map fun warning => "Warning: " ++ warning.message
  let counts :=
    "Generated " ++ toString client.models.length ++ " model(s) and " ++
      toString client.services.length ++ " service(s) in " ++ generation.outputDirectory.text
  warnings ++ [counts] ++ (generation.report.map Report.text).toList

/-- A line has no halves of pairs, which cannot be printed. -/
def isPrinted (line : String) : Bool :=
  (Text.utf8? line).isSome

/-- The ending of a run that generates a client. Its lines are printed one after another. -/
def endingOf (generation : Generation) : Ending :=
  let lines := summary generation
  let output := String.join ((lines.takeWhile isPrinted).map (· ++ "\n"))
  if lines.all isPrinted then
    .finished output ((generation.report.map fun report => !report.dangling.isEmpty).getD false)
  else .interrupted output

def endingOfError (error : GenerationError) : Ending :=
  if error.isReported then .refused error else .broken error

def generate (world : World) (request : Request) : Run :=
  let requests := Document.requests world.web world.redirects request.document
  match Generation.run world request with
  | .ok generation store => ⟨store, requests, endingOf generation⟩
  | .error error store => ⟨store, requests, endingOfError error⟩

def run (world : World) (arguments : List String) : Run :=
  match parse arguments with
  | .error error => ⟨world.store, [], .misused error⟩
  | .ok .help => ⟨world.store, [], .finished help false⟩
  | .ok .valueless => ⟨world.store, [], .broken .valueless⟩
  | .ok (.generate request) => generate world request

end TypedClient.CommandLine
