import TypedClient.Proofs.Source.Indentation
import TypedClient.Proofs.Source.Script

namespace TypedClient.Script

def readLiteral (standsRaw : Char → Bool) : List Char → Option (String × List Char)
  | '\x27' :: rest =>
    (Literal.readString standsRaw rest).map fun (text, after) => (String.ofList text, after)
  | _ => none

/-- A literal is read as its text, and it ends where it was ended, exactly when all characters of the text
may stand for themselves. -/
theorem readLiteral_string {standsRaw : Char → Bool} (backslash : standsRaw '\\' = true)
    (quote : standsRaw '\x27' = true) (value : String) (rest : List Char) :
    readLiteral standsRaw ((Literal.string value).toList ++ rest) =
      if value.toList.all standsRaw then some (value, rest) else none := by
  rw [Literal.toList_string, List.cons_append, List.cons_append, List.append_assoc, List.singleton_append,
    readLiteral, Literal.readString_flatMap_eq backslash quote]
  split <;> simp

/-- These characters are a literal with this value, whatever follows them. -/
def Spells (literal : List Char) (value : String) : Prop :=
  ∀ rest, readLiteral standsRaw (literal ++ rest) = some (value, rest)

theorem spells_string (raw : value.toList.all standsRaw = true) :
    Spells (Literal.string value).toList value := by
  intro rest
  rw [readLiteral_string (by decide) (by decide), if_pos raw]

theorem exists_of_readString (found : Literal.readString standsRaw chars = some (text, rest)) :
    ∃ front, chars = front ++ rest ∧ ∀ c ∈ front, standsRaw c = true := by
  fun_induction Literal.readString standsRaw chars generalizing text with
  | case1 => cases found
  | case2 => cases found; exact ⟨['\x27'], rfl, by simp [standsRaw]⟩
  | case3 c tail escaped ih =>
    obtain ⟨⟨others, after⟩, read, same⟩ := Option.map_eq_some_iff.mp found
    cases same
    obtain ⟨front, rfl, raw⟩ := ih read
    refine ⟨'\\' :: c :: front, rfl, List.forall_mem_cons.mpr ⟨by decide, List.forall_mem_cons.mpr ⟨?_, raw⟩⟩⟩
    rcases escaped with rfl | rfl <;> decide
  | case4 => cases found
  | case5 c tail _ _ plain ih =>
    obtain ⟨⟨others, after⟩, read, same⟩ := Option.map_eq_some_iff.mp found
    cases same
    obtain ⟨front, rfl, raw⟩ := ih read
    exact ⟨c :: front, rfl, List.forall_mem_cons.mpr ⟨plain, raw⟩⟩
  | case6 => cases found

theorem Spells.exists_cons (spells : Spells literal value) :
    ∃ rest, literal = '\x27' :: rest ∧ ∀ c ∈ literal, c ≠ '\n' := by
  have read := spells []
  rw [List.append_nil, readLiteral.eq_def] at read
  split at read
  · rename_i tail
    obtain ⟨⟨text, after⟩, inside, same⟩ := Option.map_eq_some_iff.mp read
    cases same
    obtain ⟨front, rfl, raw⟩ := exists_of_readString inside
    refine ⟨_, rfl, List.forall_mem_cons.mpr ⟨by decide, ?_⟩⟩
    rw [List.append_nil]
    exact fun c member => ne_lineFeed_of_standsRaw (raw c member)
  · cases read

/-- A character behind a line stands behind the front of the text, or in it. -/
theorem append_eq_append_cons {front back line later : List Char}
    (same : front ++ back = line ++ c :: later) :
    (∃ more, line = front ++ more ∧ back = more ++ c :: later) ∨
      ∃ more, front = line ++ c :: more ∧ later = more ++ back := by
  rcases List.append_eq_append_iff.mp same with ⟨more, rfl, spelled⟩ | ⟨more, rfl, spelled⟩
  · exact .inl ⟨more, rfl, spelled⟩
  · cases more with
    | nil => exact .inl ⟨[], by simp, spelled.symm⟩
    | cons first more =>
      obtain ⟨rfl, rfl⟩ := List.cons.inj spelled
      exact .inr ⟨more, rfl, rfl⟩

/-- The literals of a text, given which characters may stand outside of them. -/
inductive HoldsLiterals (outside : Char → Prop) : List Char → List String → Prop where
  | done (plain : ∀ c ∈ chars, outside c) : HoldsLiterals outside chars []
  | next (plain : ∀ c ∈ front, outside c) (spells : Spells literal value)
      (later : HoldsLiterals outside rest values) :
      HoldsLiterals outside (front ++ (literal ++ rest)) (value :: values)

namespace HoldsLiterals

variable {outside : Char → Prop}

theorem behind (plain : ∀ c ∈ front, outside c) (holds : HoldsLiterals outside chars values) :
    HoldsLiterals outside (front ++ chars) values := by
  have both {more : List Char} (plainMore : ∀ c ∈ more, outside c) : ∀ c ∈ front ++ more, outside c :=
    fun c member => (List.mem_append.mp member).elim (plain c) (plainMore c)
  cases holds with
  | done plainChars => exact .done (both plainChars)
  | next plainFront spells later =>
    rw [← List.append_assoc]
    exact .next (both plainFront) spells later

theorem append (first : HoldsLiterals outside chars values) (later : HoldsLiterals outside rest others) :
    HoldsLiterals outside (chars ++ rest) (values ++ others) := by
  induction first with
  | done plain => exact later.behind plain
  | next plain spells _ ih =>
    rw [List.append_assoc, List.append_assoc, List.cons_append]
    exact .next plain spells ih

theorem ofString (raw : value.toList.all standsRaw = true) :
    HoldsLiterals outside (Literal.string value).toList [value] := by
  have nothing : ∀ c ∈ ([] : List Char), outside c := fun c member => nomatch member
  have holds := next nothing (spells_string raw) (done nothing)
  rwa [List.append_nil, List.nil_append] at holds

theorem takeWhile_outside (quote : ¬outside '\x27') (plain : ∀ c ∈ front, outside c)
    (spells : Spells literal value) (rest : List Char) :
    (front ++ (literal ++ rest)).takeWhile (· != '\x27') = front := by
  have unquoted : ∀ c ∈ front, (c != '\x27') = true := fun c member =>
    bne_iff_ne.mpr fun same => quote (same ▸ plain c member)
  obtain ⟨tail, rfl, _⟩ := spells.exists_cons
  rw [List.takeWhile_append_of_pos unquoted]
  simp

/-- When no apostrophe stands outside of literals, a text has its literals in one way only. -/
theorem unique (quote : ¬outside '\x27') (holds : HoldsLiterals outside chars values)
    (also : HoldsLiterals outside chars others) : values = others := by
  induction holds generalizing others with
  | done plain =>
    cases also with
    | done => rfl
    | next _ spells _ =>
      obtain ⟨tail, rfl, _⟩ := spells.exists_cons
      exact absurd (plain '\x27' (by simp)) quote
  | @next front literal value rest values plain spells _ ih =>
    generalize spelled : front ++ (literal ++ rest) = whole at also
    cases also with
    | done plainAll =>
      obtain ⟨tail, rfl, _⟩ := spells.exists_cons
      exact absurd (plainAll '\x27' (by simp [← spelled])) quote
    | @next otherFront otherLiteral otherValue otherRest _ otherPlain otherSpells later =>
      -- Both fronts go on to the first apostrophe, and from there both literals are read alike.
      have sameFront : front = otherFront := by
        rw [← takeWhile_outside quote plain spells rest, spelled,
          takeWhile_outside quote otherPlain otherSpells]
      obtain rfl := sameFront
      have sameBehind := List.append_cancel_left spelled
      have sameRead := (spells rest).symm.trans (sameBehind ▸ otherSpells otherRest)
      obtain ⟨rfl, rfl⟩ := Prod.mk.inj (Option.some.inj sameRead)
      rw [ih later]

/-- No line ends inside a literal, so a text is divided between literals where a line ends. -/
theorem split (holds : HoldsLiterals outside chars values) (spelled : chars = line ++ '\n' :: later) :
    ∃ first others, values = first ++ others ∧ HoldsLiterals outside line first ∧
      HoldsLiterals outside later others := by
  induction holds generalizing line with
  | done plain =>
    subst spelled
    refine ⟨[], [], rfl, .done fun c member => plain c (by simp [member]), ?_⟩
    exact .done fun c member => plain c (by simp [member])
  | @next front literal value rest values plain spells holdsRest ih =>
    -- The line feed stands behind the literal or in front of it, and inside there is none.
    obtain ⟨_, _, oneLine⟩ := spells.exists_cons
    rcases append_eq_append_cons spelled with ⟨more, rfl, same⟩ | ⟨more, rfl, rfl⟩
    · rcases append_eq_append_cons same with ⟨others, rfl, sameRest⟩ | ⟨others, rfl, _⟩
      · obtain ⟨first, last, rfl, holdsLine, holdsLater⟩ := ih sameRest
        exact ⟨value :: first, last, rfl, .next plain spells holdsLine, holdsLater⟩
      · exact absurd rfl (oneLine '\n' (by simp))
    · refine ⟨[], value :: values, rfl, .done fun c member => plain c (by simp [member]), ?_⟩
      exact .next (fun c member => plain c (by simp [member])) spells holdsRest

end HoldsLiterals

/-- The literals of lines, one line after another. -/
inductive LinesHold (outside : Char → Prop) : List String → List String → Prop where
  | nil : LinesHold outside [] []
  | cons (first : HoldsLiterals outside line.toList values) (later : LinesHold outside lines others) :
      LinesHold outside (line :: lines) (values ++ others)

namespace LinesHold

variable {outside : Char → Prop}

theorem append (first : LinesHold outside lines values) (later : LinesHold outside more others) :
    LinesHold outside (lines ++ more) (values ++ others) := by
  induction first with
  | nil => exact later
  | cons holds _ ih =>
    rw [List.cons_append, List.append_assoc]
    exact .cons holds ih

theorem singleton (holds : HoldsLiterals outside line.toList values) : LinesHold outside [line] values := by
  have one := cons holds nil
  rwa [List.append_nil] at one

theorem map {edit : String → String} (keeps : ∀ line values,
      HoldsLiterals outside line.toList values → HoldsLiterals outside (edit line).toList values)
    (hold : LinesHold outside lines values) : LinesHold outside (lines.map edit) values := by
  induction hold with
  | nil => exact .nil
  | cons first _ ih => exact .cons (keeps _ _ first) ih

theorem flatMap {ι : Type} {items : List ι} {line : ι → String} {values : ι → List String}
    (hold : ∀ item ∈ items, HoldsLiterals outside (line item).toList (values item)) :
    LinesHold outside (items.map line) (items.flatMap values) := by
  induction items with
  | nil => exact .nil
  | cons item items ih =>
    rw [List.map_cons, List.flatMap_cons]
    exact .cons (hold item List.mem_cons_self) (ih fun other member =>
      hold other (List.mem_cons_of_mem item member))

theorem intercalate {separator : String} (plain : ∀ c ∈ separator.toList, outside c)
    (hold : LinesHold outside lines values) :
    HoldsLiterals outside (separator.intercalate lines).toList values := by
  induction hold with
  | nil => exact .done fun c member => nomatch member
  | @cons line values lines others first later ih =>
    cases later with
    | nil => simpa using first
    | cons =>
      rw [String.intercalate_cons_cons, String.toList_append, String.toList_append, List.append_assoc]
      exact first.append (ih.behind plain)

/-- The literals of a text are those of its lines. -/
theorem lines {text : String} (holds : HoldsLiterals outside text.toList values) :
    LinesHold outside (Text.lines text) values := by
  by_cases lineFeed : '\n' ∈ text.toList
  · obtain ⟨front, rest, spelled, absent⟩ := List.eq_append_cons_of_mem lineFeed
    obtain ⟨first, others, rfl, holdsFront, holdsRest⟩ := holds.split spelled
    have plain : ∀ c ∈ front, c ≠ '\n' := fun c member same => absent (same ▸ member)
    rw [Text.lines_of_lineFeed plain spelled]
    have inLine : HoldsLiterals outside (String.ofList front).toList first := by
      rwa [String.toList_ofList]
    have inRest : HoldsLiterals outside (String.ofList rest).toList others := by
      rwa [String.toList_ofList]
    exact .cons inLine (lines inRest)
  · rw [Text.lines_of_plain fun c member same => lineFeed (same ▸ member)]
    exact .singleton holds
termination_by text.toList.length
decreasing_by
  simp [spelled]
  omega

end LinesHold

/-! ### Parts of the sources -/

section

variable {outside : Char → Prop}

theorem HoldsLiterals.join {front back : String} (first : HoldsLiterals outside front.toList values)
    (later : HoldsLiterals outside back.toList others) :
    HoldsLiterals outside (front ++ back).toList (values ++ others) := by
  rw [String.toList_append]
  exact first.append later

variable (apart : ∀ c, c ≠ '\x27' → outside c)

include apart

theorem holds_word (word : String) (unquoted : word.toList.all (· != '\x27') = true) :
    HoldsLiterals outside word.toList [] := by
  refine .done fun c member => apart c ?_
  exact bne_iff_ne.mp (List.all_eq_true.mp unquoted c member)

theorem holds_indentation (steps : Int) : HoldsLiterals outside (indentation steps).toList [] := by
  refine .done fun c member => apart c ?_
  rw [mem_indentation member]
  decide

theorem outside_of_isIdentifier (identifier : Identifier.isIdentifier word = true) (member : c ∈ word) :
    outside c := by
  refine apart c ?_
  rintro rfl
  exact absurd (Identifier.isPart_of_mem identifier member) (by decide)

theorem holds_commaSeparated (hold : LinesHold outside items values) :
    HoldsLiterals outside (Text.commaSeparated items).toList values :=
  hold.intercalate fun c member => apart c fun same => absurd (same ▸ member) (by decide)

theorem holds_unlines (hold : LinesHold outside lines values) :
    HoldsLiterals outside (Text.unlines lines).toList values :=
  hold.intercalate fun c member => apart c fun same => absurd (same ▸ member) (by decide)

theorem holds_indented (level : Int) (line : String) (values : List String)
    (holds : HoldsLiterals outside line.toList values) :
    HoldsLiterals outside (if line.isEmpty then "" else indentation level ++ line).toList values := by
  split
  · rename_i empty
    rwa [String.isEmpty_iff.mp empty] at holds
  · exact (holds_indentation apart level).join holds

/-- Lines that are indented keep their literals. -/
theorem holds_indentLines (level : Int) {text : String} (holds : HoldsLiterals outside text.toList values) :
    HoldsLiterals outside (indentLines level text).toList values :=
  holds_unlines apart ((LinesHold.lines holds).map (holds_indented apart level))

theorem holds_objectMember {key value : String} (inKey : HoldsLiterals outside key.toList keys)
    (inValue : HoldsLiterals outside value.toList values) :
    HoldsLiterals outside (Expression.objectMember key value).toList (keys ++ values) := by
  have start := (holds_indentation apart 1).join inKey
  have colon := start.join (holds_word apart ": " (by decide))
  have comma := holds_word apart "," (by decide)
  have inLines := LinesHold.lines inValue
  unfold Expression.objectMember
  split
  · rename_i noLine
    rw [noLine] at inLines
    cases inLines
    simpa using start.join (holds_word apart ": ," (by decide))
  · rename_i first rest same
    rw [same] at inLines
    cases inLines with
    | cons inFirst inRest =>
      have whole := LinesHold.cons (colon.join inFirst) (inRest.map (holds_indented apart 1))
      simpa using (holds_unlines apart whole).join comma

/-- An object literal has the literals of its keys and values in order. -/
theorem holds_objectLiteral {ι : Type} {items : List ι} {member : ι → String × String}
    {values : ι → List String} (hold : ∀ item ∈ items,
      HoldsLiterals outside (Expression.objectMember (member item).1 (member item).2).toList (values item)) :
    HoldsLiterals outside (Expression.objectLiteral (items.map member)).toList (items.flatMap values) := by
  have opening := holds_word apart "\x7b" (by decide)
  have closing := holds_word apart "\x7d" (by decide)
  have members := LinesHold.flatMap hold
  have whole := LinesHold.cons opening (members.append (.singleton closing))
  rw [Expression.objectLiteral, List.map_map]
  simpa [Function.comp_def] using holds_unlines apart whole

theorem holds_call {callee typeArgument : String} {arguments : List String}
    (inCallee : HoldsLiterals outside callee.toList [])
    (inType : HoldsLiterals outside typeArgument.toList types)
    (inArguments : LinesHold outside arguments values) :
    HoldsLiterals outside (Expression.call callee typeArgument arguments).toList (types ++ values) := by
  have parameter : HoldsLiterals outside
      (if typeArgument.isEmpty then "" else "<" ++ typeArgument ++ ">").toList types := by
    split
    · rename_i empty
      rwa [String.isEmpty_iff.mp empty] at inType
    · have opening := holds_word apart "<" (by decide)
      have closing := holds_word apart ">" (by decide)
      simpa using (opening.join inType).join closing
  have opening := holds_word apart "(" (by decide)
  have closing := holds_word apart ")" (by decide)
  have before := (inCallee.join parameter).join opening
  simpa [Expression.call] using (before.join (holds_commaSeparated apart inArguments)).join closing

theorem holds_destructure {target : String} {members : List String}
    (inMembers : LinesHold outside members values) (inTarget : HoldsLiterals outside target.toList []) :
    HoldsLiterals outside (Expression.destructure target members).toList values := by
  have opening := holds_word apart "const \x7b " (by decide)
  have middle := holds_word apart " \x7d = " (by decide)
  have closing := holds_word apart ";" (by decide)
  have before := (opening.join (holds_commaSeparated apart inMembers)).join middle
  simpa [Expression.destructure] using (before.join inTarget).join closing

end

end TypedClient.Script
