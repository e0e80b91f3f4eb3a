import TypedClient.Method.Url
import TypedClient.Proofs.Name.Identifier
import TypedClient.Proofs.Source.Script

namespace TypedClient

namespace UrlPiece

/-- The piece as a raw path has it. -/
def text : UrlPiece → String
  | char c => String.singleton c
  | placeholder name => "\x7b" ++ name ++ "\x7d"

def IsPlain (c : Char) : Prop :=
  c ≠ '\x7b' ∧ c ≠ '\x7d'

/-- The piece is read back from its text: only a placeholder has braces, around a name without any. -/
def Delimited : UrlPiece → Prop
  | char c => IsPlain c
  | placeholder name => name ≠ "" ∧ ∀ c ∈ name.toList, IsPlain c

theorem scan_plain (plain : ∀ c ∈ name, IsPlain c) (held rest : List Char) :
    scan (some held) (name ++ rest) = scan (some (name.reverse ++ held)) rest := by
  induction name generalizing held with
  | nil => rfl
  | cons c name ih =>
    obtain ⟨notOpen, notClosed⟩ := plain c List.mem_cons_self
    rw [List.cons_append, scan, if_neg notOpen, if_neg notClosed,
      ih fun other member => plain other (List.mem_cons_of_mem c member)]
    simp

theorem scan_placeholder (delimited : (placeholder name).Delimited) (rest : List Char) :
    scan none ((placeholder name).text.toList ++ rest) = placeholder name :: scan none rest := by
  obtain ⟨nonempty, plain⟩ := delimited
  have spelled : (placeholder name).text.toList ++ rest =
      '\x7b' :: (name.toList ++ '\x7d' :: rest) := by simp [text]
  have closing : closed name.toList.reverse = [placeholder name] := by
    unfold closed
    split
    · rename_i empty
      exact False.elim (nonempty (String.toList_eq_nil_iff.mp (List.reverse_eq_nil_iff.mp empty)))
    · simp
  rw [spelled, scan, if_pos rfl, scan_plain plain, List.append_nil, scan, if_neg (by decide),
    if_pos rfl, closing]
  rfl

/-- The pieces of a raw path are those that it was put together from. -/
theorem ofPath_join {pieces : List UrlPiece} (delimited : ∀ piece ∈ pieces, piece.Delimited) :
    ofPath (String.join (pieces.map text)) = pieces := by
  rw [ofPath, String.toList_join]
  induction pieces with
  | nil => rfl
  | cons piece pieces ih =>
    have rest := ih fun other member => delimited other (List.mem_cons_of_mem piece member)
    rw [List.map_cons, List.flatMap_cons]
    cases piece with
    | char c =>
      have plain : IsPlain c := delimited (char c) List.mem_cons_self
      simp only [text, String.toList_singleton, List.singleton_append]
      rw [scan, if_neg plain.1, rest]
    | placeholder name =>
      rw [scan_placeholder (delimited (placeholder name) List.mem_cons_self), rest]

end UrlPiece

namespace UrlPiece

variable {locals : List (String × String)} {pieces : List UrlPiece}

/-- The variable for a placeholder. -/
def variableOf (locals : List (String × String)) (name : String) : String :=
  (locals.lookup name).getD name

/-- The piece as a part of a template literal. -/
def part (locals : List (String × String)) : UrlPiece → Script.TemplatePart
  | char c => .char c
  | placeholder name => .substitution (variableOf locals name)

/-- A template literal of one line shows the piece: a character stands for itself, and the variable of
a placeholder is an identifier. -/
def Shown (locals : List (String × String)) : UrlPiece → Prop
  | char c => IsPlain c ∧ Script.IsVerbatim c ∧ c ≠ '\n'
  | placeholder name => Identifier.isIdentifier (variableOf locals name).toList = true

theorem toList_template_placeholder (locals : List (String × String)) (name : String) :
    (template locals (placeholder name)).toList =
      '$' :: '\x7b' :: ((variableOf locals name).toList ++ ['\x7d']) := by
  simp [template, variableOf]

/-- No brace comes first, so a dollar sign in front of the pieces starts no substitution. -/
theorem templates_ne_brace (shown : ∀ piece ∈ pieces, piece.Shown locals) (rest more : List Char) :
    (String.join (pieces.map (template locals))).toList ++ '\x60' :: rest ≠ '\x7b' :: more := by
  cases pieces with
  | nil => simp
  | cons piece pieces =>
    cases piece with
    | char c =>
      have plain : IsPlain c := (shown (char c) List.mem_cons_self).1
      simp [template, plain.1]
    | placeholder name =>
      rw [String.toList_join, List.map_cons, List.flatMap_cons, toList_template_placeholder]
      simp

/-- The template literal of a path is read as the parts of its pieces. -/
theorem readTemplate_templates (shown : ∀ piece ∈ pieces, piece.Shown locals) (rest : List Char) :
    Script.readTemplate ((String.join (pieces.map (template locals))).toList ++ '\x60' :: rest) =
      some (pieces.map (part locals), rest) := by
  induction pieces with
  | nil => simp [Script.readTemplate]
  | cons piece pieces ih =>
    have restShown : ∀ other ∈ pieces, other.Shown locals :=
      fun other member => shown other (List.mem_cons_of_mem piece member)
    have firstShown := shown piece List.mem_cons_self
    have split : (String.join ((piece :: pieces).map (template locals))).toList ++ '\x60' :: rest =
        (template locals piece).toList ++
          ((String.join (pieces.map (template locals))).toList ++ '\x60' :: rest) := by
      simp
    rw [split]
    cases piece with
    | char c =>
      rw [template, String.toList_singleton, List.singleton_append,
        Script.readTemplate_char firstShown.2.1 fun more _ => templates_ne_brace restShown rest more,
        ih restShown]
      rfl
    | placeholder name =>
      rw [toList_template_placeholder, List.cons_append, List.cons_append, List.append_assoc,
        List.singleton_append, Script.readTemplate_substitution firstShown, ih restShown]
      rfl

theorem ne_lineFeed_of_mem_templates (shown : ∀ piece ∈ pieces, piece.Shown locals)
    (member : c ∈ (String.join (pieces.map (template locals))).toList) : c ≠ '\n' := by
  rw [String.toList_join, List.flatMap_map] at member
  obtain ⟨piece, present, inside⟩ := List.mem_flatMap.mp member
  have pieceShown := shown piece present
  cases piece with
  | char other =>
    rw [template, String.toList_singleton, List.mem_singleton] at inside
    exact inside ▸ pieceShown.2.2
  | placeholder name =>
    rintro rfl
    rw [toList_template_placeholder] at inside
    have inVariable : '\n' ∈ (variableOf locals name).toList := by simpa using inside
    exact absurd (Identifier.isPart_of_mem pieceShown inVariable) (by decide)

end UrlPiece

end TypedClient
