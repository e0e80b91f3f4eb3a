import TypedClient.Method.Build
import TypedClient.Service.Registry
import TypedClient.Source.Imports

/-!
The source file of a service. The type of the client configuration keeps its own name unless the
service imports a model of that name; then the configuration gets an alias that no imported model
has.
-/

namespace TypedClient.Service

def configurationType : String := "Configuration"

/-- The alias of the type of the client configuration beside a model of that name. -/
def configurationAlias : String := "ClientConfiguration"

/-- The name of the client configuration inside the file of a service. -/
def configurationName (service : Service) : String :=
  if service.imports.contains configurationType then freshName configurationAlias service.imports
  else configurationType

def classDecl (service : Service) : ClassDecl where
  name := service.name
  constructorParameters :=
    [⟨Operation.configurationMember, service.configurationName, some "private"⟩]
  methods := service.methods.map (·.method)
  isExported := true

def configurationImport (service : Service) : Statement :=
  let name := service.configurationName
  let imported :=
    if name = configurationType then configurationType
    else configurationType ++ " as " ++ name
  .importNames ⟨"../utils", [imported], true⟩

def relativePath (service : Service) : String :=
  "services/" ++ service.name ++ ".ts"

def sourceFile (service : Service) (header : List String) : SourceFile where
  relativePath := service.relativePath
  header := header
  statements :=
    ImportDecl.addNames "../models" service.imports [service.configurationImport] ++
      [.classOf service.classDecl]

end TypedClient.Service
