import TypedClient.Text.Pieces

namespace TypedClient.CommandLine

def programName : String := "openapi-to-ts-client-generator"

def usage : String := Text.unlines [
  "usage: openapi-to-ts-client-generator [-h] --spec SPEC --output OUTPUT",
  "                                      [--no-header] [--verify]",
  ""]

/-- What the program does and what its options mean. -/
def help : String := usage ++ Text.unlines [
  "",
  "Generate a typed TypeScript client from an OpenAPI v3 document",
  "",
  "options:",
  "  -h, --help       show this help message and exit",
  "  --spec SPEC      URL or path to the OpenAPI v3 document (JSON or YAML)",
  "  --output OUTPUT  Output directory for generated sources",
  "  --no-header      Do not prepend the generated-file header to emitted sources",
  "  --verify         Report references that do not resolve to a component schema",
  ""]

def refusal (message : String) : String :=
  usage ++ programName ++ ": error: " ++ message ++ "\n"

end TypedClient.CommandLine
