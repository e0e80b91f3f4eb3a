import Mathlib.Data.List.TakeWhile
import TypedClient.Proofs.Association
import TypedClient.Proofs.Source.Script
import TypedClient.Proofs.Text.Characters

/-!
Expressions of a method read as TypeScript reads them, and what they are worth in the scope of the
method. A variable is the local of its name when there is one, so a local can capture even the name of
the undefined value.
-/

namespace TypedClient.Script

inductive Term where
  | variable (name : String)
  /-- A member of an object that has a name, under a key. -/
  | member (target key : String)
  | text (value : String)
  | template (parts : List TemplatePart)
  | object (members : List (String × Term))

/-- A character that separates the members of an object. -/
def isBlank (c : Char) : Bool :=
  c == ' ' || c == '\n'

def readKey : List Char → Option (String × List Char)
  | '\x27' :: rest => do
    let (key, after) ← Literal.readString standsRaw rest
    return (String.ofList key, after)
  | chars => readWord chars

/-- Reads a variable, or a member of the object that has its name. -/
def readNamed (chars : List Char) : Option (Term × List Char) := do
  let (name, named) ← readVariable chars
  match named with
  | '[' :: '\x27' :: rest => do
    let (key, closed) ← Literal.readString standsRaw rest
    let after ← closed.dropPrefix? [']']
    return (.member name (String.ofList key), after)
  | after => return (.variable name, after)

mutual

def readTerm : Nat → List Char → Option (Term × List Char)
  | 0, _ => none
  | fuel + 1, '\x7b' :: rest => do
    let (members, after) ← readProperties fuel (rest.dropWhile isBlank)
    return (.object members, after)
  | _ + 1, '\x60' :: rest => do
    let (parts, after) ← readTemplate rest
    return (.template parts, after)
  | _ + 1, '\x27' :: rest => do
    let (value, after) ← Literal.readString standsRaw rest
    return (.text (String.ofList value), after)
  | _ + 1, chars => readNamed chars

/-- Reads the members of an object literal, each with a comma behind it, and the closing brace. -/
def readProperties : Nat → List Char → Option (List (String × Term) × List Char)
  | 0, _ => none
  | _ + 1, '\x7d' :: rest => some ([], rest)
  | fuel + 1, chars => do
    let (key, keyed) ← readKey chars
    let (value, closed) ← readTerm fuel (← keyed.dropPrefix? ": ".toList)
    let rest ← closed.dropPrefix? [',']
    let (members, after) ← readProperties fuel (rest.dropWhile isBlank)
    return ((key, value) :: members, after)

end

def read (text : String) : Option Term :=
  match readTerm (text.toList.length + 1) text.toList with
  | some (term, []) => some term
  | _ => none

/-- What an expression is worth, where inputs are worth something of another kind. -/
inductive Result (α : Type) where
  | undefined
  | given (input : α)
  | text (value : String)
  | record (members : List (String × Result α))

section

variable (scope : List Binding) (members : String → String → α) (display : α → String)

mutual

/-- What an expression is worth, given the bindings of variables and the members of all objects that
are no variables. Of members with one key the last counts, and a member with the key `__proto__` is
not kept. -/
def Term.value : Term → Option (Result α)
  | .variable name =>
    match scope.find? (·.localName = name) with
    | some binding => some (.given (members binding.target binding.key))
    | none => if name = "undefined" then some .undefined else none
  | .member target key =>
    if scope.any (·.localName = target) then none else some (.given (members target key))
  | .text value => some (.text value)
  | .template parts =>
    (evaluate scope (fun target key => display (members target key)) parts).map .text
  | .object entries => do
    let kept := (← Term.values entries).filter (·.1 != "__proto__")
    return .record (collapse (· == ·) kept)

/-- What the members of an object literal are worth. -/
def Term.values : List (String × Term) → Option (List (String × Result α))
  | [] => some []
  | (key, term) :: rest => do
    let first ← term.value
    let others ← Term.values rest
    return (key, first) :: others

end

end

/-! ### Texts that are read -/

def Closes (rest : List Char) : Prop :=
  rest = [] ∨ ∃ more, rest = ',' :: more

/-- The characters are read as the expression, and nothing behind them is. -/
def Reads (chars : List Char) (term : Term) : Prop :=
  ∀ fuel rest, chars.length < fuel → Closes rest → readTerm fuel (chars ++ rest) = some (term, rest)

/-- The characters behind the opening brace of an object literal are read as its members. -/
def ReadsAll (chars : List Char) (members : List (String × Term)) : Prop :=
  ∀ fuel rest, chars.length < fuel →
    readProperties fuel ((chars ++ rest).dropWhile isBlank) = some (members, rest)

theorem Reads.read_eq {text : String} (reads : Reads text.toList term) : read text = some term := by
  have whole := reads (text.toList.length + 1) [] (Nat.lt_succ_self _) (.inl rfl)
  rw [List.append_nil] at whole
  simp [read, whole]

theorem readVariable_closes (isVariable : Identifier.IsVariable name) (closes : Closes rest) :
    readVariable (name.toList ++ rest) = some (name, rest) := by
  rcases closes with rfl | ⟨more, rfl⟩
  · have parts : ∀ c ∈ name.toList, Identifier.isPart c = true :=
      fun c member => Identifier.isPart_of_mem isVariable.1 member
    have taken : name.toList.takeWhile Identifier.isPart = name.toList :=
      List.takeWhile_eq_self_iff.mpr parts
    have dropped : name.toList.dropWhile Identifier.isPart = [] :=
      List.dropWhile_eq_nil_iff.mpr parts
    simp [readVariable, readWord, taken, dropped, isVariable.1, isVariable.2]
  · exact readVariable_append isVariable (by decide) more

/-- An expression that starts with an identifier is a variable or a member of one. -/
theorem readTerm_word {name : String} (identifier : Identifier.isIdentifier name.toList = true)
    (fuel : Nat) (rest : List Char) :
    readTerm (fuel + 1) (name.toList ++ rest) = readNamed (name.toList ++ rest) := by
  obtain ⟨c, more, spelled, start⟩ := Identifier.exists_cons_of_isIdentifier identifier
  rw [spelled, List.cons_append, readTerm.eq_def]
  split
  · rename_i none
    cases none
  · rename_i same
    cases same
    cases start
  · rename_i same
    cases same
    cases start
  · rename_i same
    cases same
    cases start
  · rfl

theorem reads_variable (isVariable : Identifier.IsVariable name) :
    Reads name.toList (.variable name) := by
  intro fuel rest enough closes
  obtain ⟨fuel, rfl⟩ := Nat.exists_eq_succ_of_ne_zero (Nat.ne_zero_of_lt enough)
  rw [readTerm_word isVariable.1, readNamed, readVariable_closes isVariable closes]
  rcases closes with rfl | ⟨more, rfl⟩ <;> rfl

theorem reads_member (isVariable : Identifier.IsVariable target)
    (raw : ∀ c ∈ key.toList, standsRaw c = true) :
    Reads (target ++ "[" ++ Literal.string key ++ "]").toList (.member target key) := by
  intro fuel rest enough _
  obtain ⟨fuel, rfl⟩ := Nat.exists_eq_succ_of_ne_zero (Nat.ne_zero_of_lt enough)
  have whole : (target ++ "[" ++ Literal.string key ++ "]").toList ++ rest =
      target.toList ++ '[' :: '\x27' ::
        (key.toList.flatMap Literal.escape ++ '\x27' :: ([']'] ++ rest)) := by
    simp [Literal.toList_string]
  rw [whole, readTerm_word isVariable.1, readNamed, readVariable_append isVariable (by decide)]
  simp only [Option.bind_eq_bind, Option.bind_some, Literal.readString_flatMap _ _ raw,
    Text.dropPrefix?_append_self, String.ofList_toList]
  rfl

theorem reads_text (raw : ∀ c ∈ value.toList, standsRaw c = true) :
    Reads (Literal.string value).toList (.text value) := by
  intro fuel rest enough _
  obtain ⟨fuel, rfl⟩ := Nat.exists_eq_succ_of_ne_zero (Nat.ne_zero_of_lt enough)
  rw [Literal.toList_string, List.cons_append, List.cons_append, List.append_assoc,
    List.singleton_append, readTerm, Literal.readString_flatMap _ _ raw]
  simp

theorem reads_template (found : readTemplate chars = some (parts, [])) :
    Reads ('\x60' :: chars) (.template parts) := by
  intro fuel rest enough _
  obtain ⟨fuel, rfl⟩ := Nat.exists_eq_succ_of_ne_zero (Nat.ne_zero_of_lt enough)
  rw [List.cons_append, readTerm, readTemplate_append found]
  rfl

/-- A template literal that is read is read wherever it stands. -/
theorem reads_of_read_template {text : String} (spelled : text.toList = '\x60' :: chars)
    (found : read text = some term) : Reads text.toList term := by
  rw [read, spelled, List.length_cons, readTerm] at found
  cases template : readTemplate chars with
  | none => simp [template] at found
  | some result =>
    obtain ⟨parts, after⟩ := result
    cases after with
    | nil =>
      obtain rfl : Term.template parts = term := by simpa [template] using found
      exact spelled ▸ reads_template template
    | cons c after => simp [template] at found

theorem reads_object (reads : ReadsAll chars members) :
    Reads ('\x7b' :: chars) (.object members) := by
  intro fuel rest enough _
  obtain ⟨fuel, rfl⟩ := Nat.exists_eq_succ_of_ne_zero (Nat.ne_zero_of_lt enough)
  rw [List.cons_append, readTerm, reads fuel rest (Nat.lt_of_succ_lt_succ enough)]
  rfl

theorem readsAll_nil (blank : ∀ c ∈ gap, isBlank c = true) : ReadsAll (gap ++ ['\x7d']) [] := by
  intro fuel rest enough
  obtain ⟨fuel, rfl⟩ := Nat.exists_eq_succ_of_ne_zero (Nat.ne_zero_of_lt enough)
  rw [List.append_assoc, List.dropWhile_append_of_pos blank]
  rfl

theorem readKey_word (identifier : Identifier.isIdentifier name.toList = true)
    (stops : Identifier.isPart c = false) (rest : List Char) :
    readKey (name.toList ++ c :: rest) = some (name, c :: rest) := by
  obtain ⟨first, more, spelled, start⟩ := Identifier.exists_cons_of_isIdentifier identifier
  rw [← readWord_append identifier stops rest, spelled, List.cons_append, readKey.eq_def]
  split
  · rename_i quoted
    exact absurd (List.cons.inj quoted).1 (Identifier.ne_of_isStart start (by decide))
  · rfl

/-- The key of a member is read up to the colon, and it starts like no blank and no closing brace. -/
theorem readKey_propertyKey (raw : ∀ c ∈ key.toList, standsRaw c = true) (rest : List Char) :
    readKey ((Literal.propertyKey key).toList ++ ':' :: rest) = some (key, ':' :: rest) ∧
      ∃ c more, (Literal.propertyKey key).toList = c :: more ∧ isBlank c = false ∧ c ≠ '\x7d' := by
  unfold Literal.propertyKey
  split
  · rename_i bare
    have identifier := isIdentifier_of_isBareKey bare raw
    obtain ⟨c, more, spelled, start⟩ := Identifier.exists_cons_of_isIdentifier identifier
    have noSpace := Identifier.ne_of_isStart start (c := ' ') (by decide)
    have noLineFeed := Identifier.ne_of_isStart start (c := '\n') (by decide)
    refine ⟨?_, c, more, spelled, by simp [isBlank, noSpace, noLineFeed],
      Identifier.ne_of_isStart start (by decide)⟩
    exact readKey_word identifier (by decide) rest
  · refine ⟨?_, _, _, Literal.toList_string key, by decide, by decide⟩
    rw [Literal.toList_string, List.cons_append, List.cons_append, List.append_assoc,
      List.singleton_append, readKey, Literal.readString_flatMap _ _ raw]
    simp

theorem readsAll_cons (blank : ∀ c ∈ gap, isBlank c = true)
    (raw : ∀ c ∈ key.toList, standsRaw c = true) (first : Reads chars term)
    (others : ReadsAll more members) :
    ReadsAll (gap ++ ((Literal.propertyKey key).toList ++ (": ".toList ++ (chars ++ ',' :: more))))
      ((key, term) :: members) := by
  intro fuel rest enough
  obtain ⟨fuel, rfl⟩ := Nat.exists_eq_succ_of_ne_zero (Nat.ne_zero_of_lt enough)
  have lengths : chars.length < fuel ∧ more.length < fuel := by
    simp only [List.length_append, List.length_cons] at enough
    omega
  obtain ⟨keyRead, c, tail, spelled, notBlank, noBrace⟩ :=
    readKey_propertyKey raw (' ' :: (chars ++ ',' :: (more ++ rest)))
  have value := first fuel (',' :: (more ++ rest)) lengths.1 (.inr ⟨_, rfl⟩)
  have whole : (gap ++ ((Literal.propertyKey key).toList ++
      (": ".toList ++ (chars ++ ',' :: more))) ++ rest).dropWhile isBlank =
        (Literal.propertyKey key).toList ++ ':' :: ' ' :: (chars ++ ',' :: (more ++ rest)) := by
    rw [List.append_assoc, List.dropWhile_append_of_pos blank, spelled]
    simp [notBlank]
  have colon (chars : List Char) : (':' :: ' ' :: chars).dropPrefix? ": ".toList = some chars :=
    Text.dropPrefix?_append_self ": ".toList chars
  have comma (chars : List Char) : (',' :: chars).dropPrefix? [','] = some chars :=
    Text.dropPrefix?_append_self [','] chars
  rw [whole, readProperties.eq_def]
  split
  · rename_i none
    cases none
  · rename_i closing
    rw [spelled] at closing
    exact False.elim (noBrace (List.cons.inj closing).1)
  · rename_i same _
    cases same
    simp only [keyRead, colon, value, comma, others fuel rest lengths.2, Option.bind_eq_bind,
      Option.bind_some]
    rfl

/-! ### What object literals are worth -/

section

variable {scope : List Binding} {members : String → String → α} {display : α → String}

theorem values_members (unbound : scope.any (·.localName = target) = false)
    (keyed : List (String × String)) :
    Term.values scope members display (keyed.map fun (name, key) => (name, .member target key)) =
      some (keyed.map fun (name, key) => (name, .given (members target key))) := by
  induction keyed with
  | nil => rfl
  | cons first rest ih => simp [Term.values, Term.value, unbound, ih]

/-- An object literal is worth the record of its members when their keys are distinct. -/
theorem value_object {values : List (String × Result α)}
    (worth : Term.values scope members display entries = some values)
    (distinct : (values.map (·.1)).Nodup) (noPrototype : "__proto__" ∉ values.map (·.1)) :
    (Term.object entries).value scope members display = some (.record values) := by
  have kept : values.filter (·.1 != "__proto__") = values := by
    rw [List.filter_eq_self]
    intro entry member
    rw [bne_iff_ne]
    rintro same
    exact noPrototype (List.mem_map.mpr ⟨entry, member, same⟩)
  simp only [Term.value, worth, Option.bind_eq_bind, Option.bind_some, kept,
    collapse_of_nodup distinct]
  rfl

end

end TypedClient.Script
