import TypedClient.Proofs.Source.Term
import TypedClient.Source.Expression

/-!
Object literals read back. A literal is read as its members, also where it is itself the value of a
member and its further lines are indented once more.
-/

namespace TypedClient.Expression

open Script

/-- As a member of an object literal a value is read as the expression. -/
def Embeds (value : String) (term : Term) : Prop :=
  ∀ key, ∃ chars, (objectMember key value).toList =
      "    ".toList ++ (key.toList ++ (": ".toList ++ (chars ++ [',']))) ∧ Reads chars term

theorem objectMember_of_plain (key : String) (plain : ∀ c ∈ value.toList, c ≠ '\n') :
    objectMember key value = "    " ++ key ++ ": " ++ value ++ "," := by
  simp [objectMember, Text.lines_of_plain plain, Text.unlines, indentation, Text.repeated]

theorem embeds_of_plain {value : String} (plain : ∀ c ∈ value.toList, c ≠ '\n')
    (reads : Reads value.toList term) : Embeds value term := by
  intro key
  exact ⟨value.toList, by simp [objectMember_of_plain key plain], reads⟩

theorem toList_objectLiteral (members : List (String × String)) :
    (objectLiteral members).toList =
      '\x7b' :: ((members.flatMap fun member => '\n' :: (objectMember member.1 member.2).toList) ++
        ['\n', '\x7d']) := by
  rw [objectLiteral, List.cons_append, Text.toList_unlines_cons]
  simp [List.flatMap_append, List.flatMap_map]

theorem exists_toList_objectLiteral (member : String × String) (members : List (String × String)) :
    ∃ rest, (objectLiteral (member :: members)).toList =
      '\x7b' :: '\n' :: ((objectMember member.1 member.2).toList ++ rest) := by
  rw [toList_objectLiteral, List.flatMap_cons, List.append_assoc]
  exact ⟨_, rfl⟩

section

variable {ι : Type} (key value : ι → String) (term : ι → Term) {items : List ι}

/-- The members of an object literal, written with a key and a value for each item. -/
def membersOf (items : List ι) : List (String × String) :=
  items.map fun item => (Literal.propertyKey (key item), value item)

/-- An object literal is read as its members when their values are. -/
theorem reads_objectLiteral (raw : ∀ item ∈ items, ∀ c ∈ (key item).toList, standsRaw c = true)
    (embeds : ∀ item ∈ items, Embeds (value item) (term item)) :
    Reads (objectLiteral (membersOf key value items)).toList
      (.object (items.map fun item => (key item, term item))) := by
  rw [toList_objectLiteral]
  apply reads_object
  induction items with
  | nil =>
    have blank : ∀ c ∈ ['\n'], isBlank c = true := List.all_eq_true.mp (by decide)
    exact readsAll_nil blank
  | cons item items ih =>
    have others := ih (fun other member => raw other (List.mem_cons_of_mem item member))
      fun other member => embeds other (List.mem_cons_of_mem item member)
    obtain ⟨chars, written, reads⟩ := embeds item List.mem_cons_self (Literal.propertyKey (key item))
    have blank : ∀ c ∈ '\n' :: "    ".toList, isBlank c = true := List.all_eq_true.mp (by decide)
    have first := readsAll_cons blank (raw item List.mem_cons_self) reads others
    simpa [membersOf, written] using first

/-- The members of an object literal with some blanks in front of each. -/
def spread (gap : List Char) (items : List ι) : List Char :=
  items.flatMap fun item => gap ++ ((Literal.propertyKey (key item)).toList ++
    (": ".toList ++ ((value item).toList ++ [','])))

theorem readsAll_spread (blankGap : ∀ c ∈ gap, isBlank c = true)
    (blankEnd : ∀ c ∈ closing, isBlank c = true)
    (raw : ∀ item ∈ items, ∀ c ∈ (key item).toList, standsRaw c = true)
    (reads : ∀ item ∈ items, Reads (value item).toList (term item)) :
    ReadsAll (spread key value gap items ++ (closing ++ ['\x7d']))
      (items.map fun item => (key item, term item)) := by
  induction items with
  | nil => exact readsAll_nil blankEnd
  | cons item items ih =>
    have others := ih (fun other member => raw other (List.mem_cons_of_mem item member))
      fun other member => reads other (List.mem_cons_of_mem item member)
    have first := readsAll_cons blankGap (raw item List.mem_cons_self)
      (reads item List.mem_cons_self) others
    simpa [spread] using first

theorem standsRaw_of_mem_propertyKey {name : String} (raw : ∀ c ∈ name.toList, standsRaw c = true)
    (member : c ∈ (Literal.propertyKey name).toList) : standsRaw c = true := by
  unfold Literal.propertyKey at member
  split at member
  · exact raw c member
  · exact standsRaw_of_mem_string raw member

/-- The line of a member whose value has one line. -/
def lineOf (item : ι) : String :=
  "    " ++ Literal.propertyKey (key item) ++ ": " ++ value item ++ ","

theorem objectMember_eq_lineOf (plain : ∀ item ∈ items, ∀ c ∈ (value item).toList, c ≠ '\n') :
    (membersOf key value items).map (fun member => objectMember member.1 member.2) =
      items.map (lineOf key value) := by
  rw [membersOf, List.map_map]
  exact List.map_congr_left fun item member => objectMember_of_plain _ (plain item member)

theorem ne_lineFeed_of_mem_lineOf {item : ι} (raw : ∀ c ∈ (key item).toList, standsRaw c = true)
    (plain : ∀ c ∈ (value item).toList, c ≠ '\n') (member : c ∈ (lineOf key value item).toList) :
    c ≠ '\n' := by
  have fixed : '\n' ∉ "    ".toList ∧ '\n' ∉ ": ".toList ∧ '\n' ∉ ",".toList := by decide
  simp only [lineOf, String.toList_append, List.mem_append] at member
  rintro rfl
  rcases member with (((inIndent | inKey) | inColon) | inValue) | inComma
  · exact fixed.1 inIndent
  · exact ne_lineFeed_of_standsRaw (standsRaw_of_mem_propertyKey raw inKey) rfl
  · exact fixed.2.1 inColon
  · exact plain '\n' inValue rfl
  · exact fixed.2.2 inComma

/-- An object literal whose values have one line each is read the same where it is the value of a
member, though its lines stand further to the right there. -/
theorem embeds_objectLiteral (raw : ∀ item ∈ items, ∀ c ∈ (key item).toList, standsRaw c = true)
    (plain : ∀ item ∈ items, ∀ c ∈ (value item).toList, c ≠ '\n')
    (reads : ∀ item ∈ items, Reads (value item).toList (term item)) :
    Embeds (objectLiteral (membersOf key value items))
      (.object (items.map fun item => (key item, term item))) := by
  intro name
  have plainLines : ∀ line ∈ "\x7b" :: (items.map (lineOf key value) ++ ["\x7d"]),
      ∀ c ∈ line.toList, c ≠ '\n' := by
    intro line member
    have braces : '\n' ∉ "\x7b".toList ∧ '\n' ∉ "\x7d".toList := by decide
    rcases List.mem_cons.mp member with rfl | member
    · exact fun c inside lineFeed => braces.1 (lineFeed ▸ inside)
    · rcases List.mem_append.mp member with inItems | last
      · obtain ⟨item, present, rfl⟩ := List.mem_map.mp inItems
        exact fun c => ne_lineFeed_of_mem_lineOf key value (raw item present) (plain item present)
      · rw [List.mem_singleton.mp last]
        exact fun c inside lineFeed => braces.2 (lineFeed ▸ inside)
  have gapBlank : ∀ c ∈ '\n' :: "        ".toList, isBlank c = true :=
    List.all_eq_true.mp (by decide)
  have endBlank : ∀ c ∈ '\n' :: "    ".toList, isBlank c = true := List.all_eq_true.mp (by decide)
  have readMembers := readsAll_spread key value term gapBlank endBlank raw reads
  refine ⟨_, ?_, reads_object readMembers⟩
  have moved : (items.map (lineOf key value) ++ ["\x7d"]).map
      (fun line => if line.isEmpty then "" else indentation 1 ++ line) =
        items.map (fun item => "    " ++ lineOf key value item) ++ ["    \x7d"] := by
    simp [lineOf, indentation, Text.repeated]
  rw [objectMember, objectLiteral, objectMember_eq_lineOf key value plain, List.cons_append,
    Text.lines_unlines plainLines]
  simp only [moved, String.toList_append, Text.toList_unlines_cons]
  simp [lineOf, spread, indentation, Text.repeated, List.flatMap_map]

end

end TypedClient.Expression
