import TypedClient.Client.Warning
import TypedClient.Document.Parts
import TypedClient.Operation.PathItem
import TypedClient.Service.File

/-!
The client of a document: its models, its services, its source files and the warnings. Paths are
taken in order of declaration, and so are the operations of a path. Nothing is written here.
-/

namespace TypedClient

/-- A model: a component schema as a type expression under its name. -/
structure Model where
  name : String
  type : TypeExpr

/-- A client in memory. -/
structure Client where
  files : List SourceFile
  models : List Model
  services : Registry
  warnings : List Warning

namespace Model

def ofSchemas : List (String × Value) → Except CompileError (List Model)
  | [] => return []
  | (name, schema) :: rest => do
    let type ← TypeExpr.ofSchema schema
    let others ← ofSchemas rest
    return ⟨name, type⟩ :: others

/-- The models of a document, one for every component schema. -/
def ofDocument (document : Entries) : Except CompileError (List Model) := do
  ensureWritable ((Document.schemaEntries document).map (·.1))
  ofSchemas (Document.componentSchemas document)

def declaration (model : Model) : Statement :=
  .typeAlias model.name (model.type.render 0) true

end Model

namespace Client

def defaultHeader : List String := [
  "/* eslint-disable */",
  "// This file was generated by openapi-to-ts-client-generator. Do not edit."]

/-- The declarations that all clients share: the adapter and the configuration. -/
def sharedSource : String := Text.unlines [
  "export type Adapter = <T>(args: \x7b",
  "    url: string;",
  "    method: 'POST' | 'GET' | 'PATCH' | 'DELETE' | 'PUT';",
  "    queryParams?: any;",
  "    bodyArgs?: any;",
  "\x7d) => Promise<T>;",
  "",
  "export type Configuration = \x7b",
  "    baseUrl: string;",
  "    adapter: Adapter;",
  "\x7d;"]

/-- The file with the declarations that all clients share. -/
def sharedFile (header : List String) : SourceFile :=
  ⟨"utils.ts", header, [.verbatim sharedSource]⟩

def modelsFile (models : List Model) (header : List String) : SourceFile :=
  ⟨"models.ts", header, models.map (·.declaration)⟩

/-- An operation of a path with what is warned about it. -/
structure Declared where
  operation : Operation
  warnings : List Warning

def declare (path : String) (pathParameters : List Value) (method : String) (entries : Entries) :
    Except CompileError Declared := do
  let operationId := Entries.field entries "operationId"
  ensureWritable [operationId]
  let operation ← Operation.extract path method entries pathParameters
  let label := Text.upper method ++ " " ++ path
  let shared := if Operation.usesFallback operationId then [.sharedName operationId label] else []
  let ignored := operation.skipped.map (.ignoredParameter · label)
  let renamed := operation.renamedInputs.map fun (declared, key) =>
    .renamedInput declared label key
  return ⟨operation, shared ++ ignored ++ renamed⟩

/-- Reads the operations of a path in order. -/
def declareAll (path : String) (pathParameters : List Value) :
    List (String × Entries) → Except CompileError (List Declared)
  | [] => .ok []
  | (method, entries) :: rest => do
    let first ← declare path pathParameters method entries
    let others ← declareAll path pathParameters rest
    return first :: others

/-- What a path item contributes: its operations and warnings. -/
structure Contribution where
  operations : List Operation
  warnings : List Warning

/-- Reads a path item; its keys are checked before its operations are read. -/
def contribution (path : String) (item : Entries) : Except CompileError Contribution := do
  PathItem.ensureKnown path item
  match PathItem.operations item with
  | [] => return ⟨[], [.noOperations path]⟩
  | operations => do
    let declared ← declareAll path (Operation.fieldItems item "parameters") operations
    return ⟨declared.map (·.operation), declared.flatMap (·.warnings)⟩

/-- Reads path items in order. -/
def contributions : List (String × Entries) → Except CompileError (List Contribution)
  | [] => .ok []
  | (path, item) :: rest => do
    let first ← contribution path item
    let others ← contributions rest
    return first :: others

/-- The client of a document. -/
def compile (document : Entries) (header : List String) : Except CompileError Client := do
  let paths ← Document.paths document
  let models ← Model.ofDocument document
  let read ← contributions paths
  let services := Registry.ofOperations (read.flatMap (·.operations))
  let serviceFiles := services.map (·.sourceFile header)
  return {
    files := sharedFile header :: modelsFile models header :: serviceFiles
    models
    services
    warnings := read.flatMap (·.warnings) }

end Client

end TypedClient
