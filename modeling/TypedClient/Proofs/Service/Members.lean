import Mathlib.Data.List.Forall2
import TypedClient.Proofs.Service.Names

namespace TypedClient

namespace ClassDecl

/-- The names of the members: the constructor if there is one, those of its parameters that have an
access modifier and are members thereby, and the methods. -/
def memberNames (declaration : ClassDecl) : List String :=
  let parameters := declaration.constructorParameters
  let construction := if parameters.isEmpty then [] else ["constructor"]
  construction ++ (parameters.filter (·.scope.isSome)).map (·.name) ++
    declaration.methods.map (·.name)

/-- The text of a member begins with its name and an opening parenthesis. -/
def Opens (name text : String) : Prop :=
  (indentation 1 ++ name ++ "(").toList <+: text.toList

theorem opens_render (method : MethodDecl) : Opens method.name method.render := by
  simp only [Opens, MethodDecl.render, List.cons_append, Text.toList_unlines_cons,
    String.toList_append, List.append_assoc]
  exact ⟨_, by simp only [List.append_assoc]; rfl⟩

end ClassDecl

namespace Service

/-- The constructor of a service, whose parameter is the configuration and a member. -/
def constructorText (service : Service) : String :=
  indentation 1 ++ "constructor(" ++ ("private configuration: " ++ service.configurationName) ++
    ") \x7b\x7d"

theorem members_classDecl (service : Service) :
    service.classDecl.members =
      service.constructorText :: service.methods.map fun operation => operation.method.render := by
  have parameter : ParameterDecl.render
      ⟨Operation.configurationMember, service.configurationName, some "private"⟩ =
        "private configuration: " ++ service.configurationName := rfl
  simp only [ClassDecl.members, classDecl, List.isEmpty_cons, Bool.false_eq_true, if_false,
    List.map_singleton, parameter, List.map_map]
  rfl

theorem memberNames_classDecl (service : Service) :
    service.classDecl.memberNames =
      "constructor" :: "configuration" :: service.methods.map (·.methodName) := by
  simp [ClassDecl.memberNames, classDecl, Operation.method, Operation.configurationMember]

/-- The members stand in the class one after another: the constructor, and a method for every name. -/
theorem members_open (service : Service) :
    List.Forall₂ ClassDecl.Opens ("constructor" :: service.methods.map (·.methodName))
      service.classDecl.members := by
  rw [members_classDecl]
  refine .cons ?_ ?_
  · simp only [ClassDecl.Opens, constructorText, String.toList_append, List.append_assoc]
    exact ⟨_, by simp only [List.append_assoc]; rfl⟩
  · rw [List.forall₂_map_left_iff, List.forall₂_map_right_iff, List.forall₂_same]
    exact fun operation _ => ClassDecl.opens_render operation.method

end Service

namespace Client

theorem methodNames_nodup (compiled : compile document header = .ok client)
    (member : service ∈ client.services) : (service.methods.map (·.methodName)).Nodup := by
  obtain ⟨operations, same, _⟩ := services_of_compile compiled
  rw [same] at member
  exact ((Registry.groups_ofOperations operations).services service member).distinct

/-- The members of the class of a service have distinct names exactly when no method is called like
the constructor or like the configuration. The methods are always apart from each other. -/
theorem memberNames_nodup_iff (compiled : compile document header = .ok client)
    (member : service ∈ client.services) :
    service.sourceFile header ∈ client.files ∧
      .classOf service.classDecl ∈ (service.sourceFile header).statements ∧
      List.Forall₂ ClassDecl.Opens ("constructor" :: service.methods.map (·.methodName))
        service.classDecl.members ∧
      service.classDecl.memberNames =
        "constructor" :: "configuration" :: service.methods.map (·.methodName) ∧
      (service.methods.map (·.methodName)).Nodup ∧
      (service.classDecl.memberNames.Nodup ↔
        "constructor" ∉ service.methods.map (·.methodName) ∧
          "configuration" ∉ service.methods.map (·.methodName)) := by
  have distinct := methodNames_nodup compiled member
  have emitted : .classOf service.classDecl ∈ (service.sourceFile header).statements := by
    rw [Service.sourceFile_statements]
    simp
  refine ⟨sourceFile_mem_files compiled member, emitted, service.members_open,
    service.memberNames_classDecl, distinct, ?_⟩
  rw [service.memberNames_classDecl, List.nodup_cons, List.nodup_cons, List.mem_cons]
  simp [distinct]

/-- The names of the members of classes. -/
def allMemberNames (client : Client) : List (List String) :=
  client.services.map fun service => service.classDecl.memberNames

/-- A method under a name of its own is apart from the members that the class has anyway. -/
theorem memberNames_listing : ∃ client service,
    compile (modelDocument "UserController_list" "User") [] = .ok client ∧
      service ∈ client.services ∧
      service.classDecl.memberNames = ["constructor", "configuration", "list"] ∧
      (service.classDecl.memberNames.Nodup ↔
        "constructor" ∉ service.methods.map (·.methodName) ∧
          "configuration" ∉ service.methods.map (·.methodName)) := by
  have evaluated : (compile (modelDocument "UserController_list" "User") []).toOption.map
      allMemberNames = some [["constructor", "configuration", "list"]] := by decide +kernel
  obtain ⟨client, compiled, names⟩ := Outcome.map_toOption_eq_some.mp evaluated
  obtain ⟨service, only, same⟩ := List.map_eq_singleton_iff.mp names
  have member : service ∈ client.services := only ▸ List.mem_singleton_self service
  exact ⟨client, service, compiled, member, same,
    (memberNames_nodup_iff compiled member).2.2.2.2.2⟩

/-- A method called like the configuration is a second member of that name. -/
theorem memberNames_clash : ∃ client service,
    compile (modelDocument "System_configuration" "User") [] = .ok client ∧
      service ∈ client.services ∧ ¬service.classDecl.memberNames.Nodup := by
  have evaluated : (compile (modelDocument "System_configuration" "User") []).toOption.map
      allMemberNames = some [["constructor", "configuration", "configuration"]] := by decide +kernel
  obtain ⟨client, compiled, names⟩ := Outcome.map_toOption_eq_some.mp evaluated
  obtain ⟨service, only, same⟩ := List.map_eq_singleton_iff.mp names
  refine ⟨client, service, compiled, only ▸ List.mem_singleton_self service, ?_⟩
  rw [same]
  decide

end Client

end TypedClient
