import Mathlib.Data.List.Basic
import TypedClient.Proofs.Name.Identifier
import TypedClient.Proofs.Name.Literal

namespace TypedClient.Script

/-- A local variable, bound to the member of an object under a key. -/
structure Binding where
  localName : String
  target : String
  key : String
  deriving DecidableEq, Repr

inductive TemplatePart where
  | char (c : Char)
  | substitution (name : String)
  deriving DecidableEq, Repr

/-- A line may not end inside a string literal. -/
def standsRaw (c : Char) : Bool :=
  c != '\n' && c != '\r'

def readWord (chars : List Char) : Option (String × List Char) :=
  let word := chars.takeWhile Identifier.isPart
  if Identifier.isIdentifier word then some (String.ofList word, chars.dropWhile Identifier.isPart)
  else none

def readVariable (chars : List Char) : Option (String × List Char) := do
  let (name, after) ← readWord chars
  if Identifier.isReserved name.toList then none else return (name, after)

/-- Reads a member of a destructuring: its key and its variable, which are the same when only one of
them is written. -/
def readMember : List Char → Option ((String × String) × List Char)
  | '\x27' :: rest => do
    let (key, closed) ← Literal.readString standsRaw rest
    let (name, after) ← readVariable (← closed.dropPrefix? ": ".toList)
    return ((String.ofList key, name), after)
  | chars => do
    let (key, keyed) ← readWord chars
    match keyed.dropPrefix? ": ".toList with
    | some named => do
      let (name, after) ← readVariable named
      return ((key, name), after)
    | none => do
      let (name, after) ← readVariable chars
      return ((name, name), after)

def readMembers : Nat → List Char → Option (List (String × String) × List Char)
  | 0, _ => none
  | fuel + 1, chars => do
    let (member, closed) ← readMember chars
    match closed with
    | ',' :: ' ' :: rest => do
      let (members, after) ← readMembers fuel rest
      return (member :: members, after)
    | after => return ([member], after)

/-- A character of an object that is destructured: of an argument or of a member of this one. -/
def isTarget (c : Char) : Bool :=
  Identifier.isPart c || c == '.'

/-- Reads a statement that binds the members of an object. -/
def readDestructure (statement : String) : Option (List Binding) := do
  let opened ← statement.toList.dropPrefix? "const \x7b ".toList
  let (members, closed) ← readMembers opened.length opened
  let targeted ← closed.dropPrefix? " \x7d = ".toList
  let target := String.ofList (targeted.takeWhile isTarget)
  match targeted.dropWhile isTarget with
  | [';'] => return members.map fun (key, name) => ⟨name, target, key⟩
  | _ => none

/-- Reads the statements of a method: what they bind, and the last one behind an empty line. -/
def readStatements : List String → Option (List Binding × String)
  | [] => none
  | ["", answer] => some ([], answer)
  | statement :: rest => do
    let bindings ← readDestructure statement
    let (others, answer) ← readStatements rest
    return (bindings ++ others, answer)

/-- Reads a template literal behind its opening backtick. Escapes are not read, and neither is a
carriage return, which does not stand for itself. -/
def readTemplate : List Char → Option (List TemplatePart × List Char)
  | [] => none
  | '\x60' :: rest => some ([], rest)
  | '\\' :: _ => none
  | '\r' :: _ => none
  | '$' :: '\x7b' :: rest =>
    let word := rest.takeWhile Identifier.isPart
    match _followed : rest.dropWhile Identifier.isPart with
    | '\x7d' :: after =>
      if Identifier.isIdentifier word then
        (readTemplate after).map fun (parts, rest) =>
          (.substitution (String.ofList word) :: parts, rest)
      else none
    | _ => none
  | c :: rest => (readTemplate rest).map fun (parts, rest) => (.char c :: parts, rest)
termination_by chars => chars.length
decreasing_by
  · have shorter := (List.dropWhile_suffix Identifier.isPart (l := rest)).length_le
    simp only [_followed, List.length_cons] at shorter ⊢
    omega
  · simp

/-- Reads the template literal of the first member of a request, which is its address. -/
def readAddress (request : String) : Option (List TemplatePart) := do
  let opened ← request.toList.dropPrefix? "\x7b\n    url: \x60".toList
  let (parts, after) ← readTemplate opened
  match after with
  | ',' :: _ => return parts
  | _ => none

/-- The value of a template literal, given the bindings of its variables and the members of all
objects. A variable that is not bound has no value. -/
def evaluate (scope : List Binding) (members : String → String → String) :
    List TemplatePart → Option String
  | [] => some ""
  | .char c :: rest => (evaluate scope members rest).map (String.singleton c ++ ·)
  | .substitution name :: rest => do
    let binding ← scope.find? (·.localName = name)
    let value ← evaluate scope members rest
    return members binding.target binding.key ++ value

/-! ### Words and keys that are read -/

theorem standsRaw_of_isPart (part : Identifier.isPart c = true) : standsRaw c = true := by
  have lineEnds : Identifier.isPart '\n' = false ∧ Identifier.isPart '\r' = false := by decide
  have noLineFeed : c ≠ '\n' := by
    rintro rfl
    exact Bool.eq_false_iff.mp lineEnds.1 part
  have noReturn : c ≠ '\r' := by
    rintro rfl
    exact Bool.eq_false_iff.mp lineEnds.2 part
  simp [standsRaw, noLineFeed, noReturn]

theorem ne_lineFeed_of_standsRaw (raw : standsRaw c = true) : c ≠ '\n' := by
  rintro rfl
  exact absurd raw (by decide)

/-- A string literal has no line end when its text has none. -/
theorem standsRaw_of_mem_string {s : String} (raw : ∀ c ∈ s.toList, standsRaw c = true)
    (member : c ∈ (Literal.string s).toList) : standsRaw c = true := by
  rcases Literal.mem_string member with rfl | rfl | inText
  · decide
  · decide
  · exact raw c inText

theorem readWord_append (identifier : Identifier.isIdentifier name.toList = true)
    (stops : Identifier.isPart c = false) (rest : List Char) :
    readWord (name.toList ++ c :: rest) = some (name, c :: rest) := by
  rw [readWord, Identifier.takeWhile_isPart identifier stops,
    Identifier.dropWhile_isPart identifier stops]
  simp [identifier]

theorem readVariable_append (isVariable : Identifier.IsVariable name)
    (stops : Identifier.isPart c = false) (rest : List Char) :
    readVariable (name.toList ++ c :: rest) = some (name, c :: rest) := by
  rw [readVariable, readWord_append isVariable.1 stops]
  simp [isVariable.2]

/-- A key without quotes is an identifier, for it holds no line feed. -/
theorem isIdentifier_of_isBareKey (bare : Literal.isBareKey key = true)
    (raw : ∀ c ∈ key.toList, standsRaw c = true) : Identifier.isIdentifier key.toList = true := by
  rcases Literal.isBareKey_cases bare with identifier | ⟨word, spelled, _⟩
  · exact identifier
  · exact absurd (raw '\n' (by simp [spelled])) (by decide)

/-! ### Template literals that are read -/

/-- A character that a template literal shows as it is, when no brace follows a dollar sign. -/
def IsVerbatim (c : Char) : Prop :=
  c ≠ '\x60' ∧ c ≠ '\\' ∧ c ≠ '\r'

theorem readTemplate_char (verbatim : IsVerbatim c)
    (noBrace : ∀ more, c = '$' → rest ≠ '\x7b' :: more) :
    readTemplate (c :: rest) =
      (readTemplate rest).map fun (parts, after) => (.char c :: parts, after) := by
  obtain ⟨noBacktick, noBackslash, noReturn⟩ := verbatim
  rw [readTemplate.eq_def]
  split <;> simp_all

theorem readTemplate_substitution (identifier : Identifier.isIdentifier name.toList = true)
    (rest : List Char) :
    readTemplate ('$' :: '\x7b' :: (name.toList ++ '\x7d' :: rest)) =
      (readTemplate rest).map fun (parts, after) => (.substitution name :: parts, after) := by
  have dropped := Identifier.dropWhile_isPart identifier (c := '\x7d') (by decide) rest
  have taken := Identifier.takeWhile_isPart identifier (c := '\x7d') (by decide) rest
  rw [readTemplate.eq_def]
  simp only
  split
  · rename_i after followed
    obtain rfl : after = rest := (List.cons.inj (followed.symm.trans dropped)).2
    rw [taken, if_pos identifier, String.ofList_toList]
  · rename_i unclosed
    exact False.elim (unclosed rest dropped)

/-- A template literal is read the same when something follows it. -/
theorem readTemplate_append (found : readTemplate chars = some (parts, after)) (rest : List Char) :
    readTemplate (chars ++ rest) = some (parts, after ++ rest) := by
  fun_induction readTemplate chars generalizing parts after with
  | case1 => cases found
  | case2 tail =>
    cases found
    simp [readTemplate]
  | case3 => cases found
  | case4 => cases found
  | case5 tail word behind followed identifier =>
    rename_i ih
    obtain ⟨⟨others, left⟩, read, same⟩ := Option.map_eq_some_iff.mp found
    cases same
    have split : word ++ '\x7d' :: (behind ++ rest) = tail ++ rest := by
      rw [← List.cons_append, ← List.append_assoc, ← followed, List.takeWhile_append_dropWhile]
    have spelled : Identifier.isIdentifier (String.ofList word).toList = true := by
      rwa [String.toList_ofList]
    have whole := readTemplate_substitution spelled (behind ++ rest)
    rw [ih read, String.toList_ofList, split] at whole
    exact whole
  | case6 => cases found
  | case7 => cases found
  | case8 c tail noBacktick noBackslash noReturn noBrace ih =>
    obtain ⟨⟨others, left⟩, read, same⟩ := Option.map_eq_some_iff.mp found
    cases same
    have stays : ∀ more, c = '$' → tail ++ rest ≠ '\x7b' :: more := by
      intro more dollar brace
      cases tail with
      | nil => simp [readTemplate] at read
      | cons next tail => exact noBrace tail dollar (by rw [(List.cons.inj brace).1])
    rw [List.cons_append, readTemplate_char ⟨noBacktick, noBackslash, noReturn⟩ stays, ih read]
    rfl

end TypedClient.Script
