import TypedClient.Source.Statement

/-!
How the text of a file comes together from blocks. The header is a block, and so is every statement,
except that an import behind an import joins the block of that one; an empty line stands between blocks.
What a statement adds to the text depends on no more than the statement in front of it, so a file can be
cut between any two statements, and its header can be taken away.
-/

namespace TypedClient

/-- A file that is being written: its blocks, the newest first, and the statement written last. -/
structure Draft where
  blocks : List String
  last : Option Statement

namespace Draft

/-- A draft with a header, or with nothing when the header is empty. -/
def start (header : List String) : Draft :=
  ⟨if header.isEmpty then [] else [Text.unlines header], none⟩

/-- The statement and the one in front of it are both imports. -/
def joins (draft : Draft) (statement : Statement) : Bool :=
  draft.last.any Statement.isImport && statement.isImport

/-- Writes a statement into the newest block or into a block of its own. -/
def add (draft : Draft) (statement : Statement) : Draft :=
  match draft.blocks with
  | [] => ⟨[statement.render], some statement⟩
  | newest :: earlier =>
    if draft.joins statement then ⟨(newest ++ "\n" ++ statement.render) :: earlier, some statement⟩
    else ⟨statement.render :: newest :: earlier, some statement⟩

def text (draft : Draft) : String :=
  "\n\n".intercalate draft.blocks.reverse

/-- What stands between the text of a draft and the next statement. -/
def gap (draft : Draft) (statement : Statement) : String :=
  if draft.joins statement then "\n" else "\n\n"

theorem last_add (draft : Draft) (statement : Statement) : (draft.add statement).last = some statement := by
  unfold add
  split
  · rfl
  · split <;> rfl

theorem blocks_add (draft : Draft) (statement : Statement) : (draft.add statement).blocks ≠ [] := by
  unfold add
  split
  · exact List.cons_ne_nil _ _
  · split <;> exact List.cons_ne_nil _ _

/-- Between two statements the first of which is written, the same stands as in the finished file. -/
theorem gap_add (draft : Draft) (statement next : Statement) :
    (draft.add statement).gap next = statement.separator next := by
  rw [gap, joins, last_add]
  rfl

theorem text_cons (begun : earlier ≠ []) (newest : String) (last next : Option Statement) :
    text ⟨newest :: earlier, next⟩ = text ⟨earlier, last⟩ ++ "\n\n" ++ newest := by
  have others : earlier.reverse ≠ [] := by simpa using begun
  simp only [text, List.reverse_cons]
  rw [String.intercalate_append_of_ne_nil others (List.cons_ne_nil _ _), String.intercalate_singleton]

theorem text_append (newest more : String) (earlier : List String) (last next : Option Statement) :
    text ⟨(newest ++ more) :: earlier, next⟩ = text ⟨newest :: earlier, last⟩ ++ more := by
  cases earlier with
  | nil => simp [text]
  | cons other others =>
    have begun := List.cons_ne_nil other others
    rw [text_cons begun _ last, text_cons begun _ last, ← String.append_assoc]

/-- A statement is written behind the text of a draft, and nothing else changes. -/
theorem text_add {draft : Draft} (begun : draft.blocks ≠ []) (statement : Statement) :
    (draft.add statement).text = draft.text ++ draft.gap statement ++ statement.render := by
  obtain ⟨blocks, last⟩ := draft
  obtain ⟨newest, earlier, rfl⟩ := List.exists_cons_of_ne_nil begun
  by_cases joined : joins ⟨newest :: earlier, last⟩ statement = true
  · simp only [add, gap, joined, if_true, String.append_assoc]
    exact text_append newest _ earlier last _
  · simp only [add, gap, joined]
    exact text_cons begun _ last _

/-- Statements are written behind the text of a draft as they are written on their own. -/
theorem text_addAll {draft : Draft} (begun : draft.blocks ≠ []) (statement : Statement)
    (rest : List Statement) :
    ((statement :: rest).foldl add draft).text =
      draft.text ++ draft.gap statement ++ Statement.renderAll (statement :: rest) := by
  induction rest generalizing draft statement with
  | nil => exact text_add begun statement
  | cons next rest ih =>
    rw [List.foldl_cons, ih (blocks_add draft statement), text_add begun, gap_add, Statement.renderAll]
    simp only [String.append_assoc]

/-- What comes last in a draft is the last of the statements that were written. -/
theorem foldl_add (nonempty : statements ≠ []) (draft : Draft) : statements.foldl add draft =
    (statements.dropLast.foldl add draft).add (statements.getLast nonempty) := by
  have parts := congrArg (List.foldl add draft) (List.dropLast_concat_getLast nonempty)
  rw [← parts, List.foldl_append]
  rfl

end Draft

namespace SourceFile

/-- A file is written statement by statement. -/
theorem render_eq_foldl (path : String) (header : List String) (statements : List Statement) :
    render ⟨path, header, statements⟩ =
      (statements.foldl Draft.add (Draft.start header)).text ++ "\n" := by
  cases statements with
  | nil => cases header <;> rfl
  | cons statement rest =>
    cases header with
    | cons line header =>
      rw [Draft.text_addAll (List.cons_ne_nil _ _)]
      rfl
    | nil =>
      cases rest with
      | nil => rfl
      | cons next rest =>
        have begun := Draft.blocks_add (Draft.start []) statement
        rw [List.foldl_cons, Draft.text_addAll begun, Draft.gap_add]
        rfl

/-- A file that is cut between two statements is the text in front of the cut without its last line feed,
then one line feed between two imports and two between others, then the statements behind the cut as a
file without a header. The header of a file with statements is a front of its text, with an empty line
behind it, and the rest is the file without a header. -/
theorem render_append (path : String) (header : List String) {front : List Statement}
    (nonempty : front ≠ []) :
    (∀ (back : List Statement) (others : back ≠ []), ∃ text,
        render ⟨path, header, front⟩ = text ++ "\n" ∧
        render ⟨path, header, front ++ back⟩ = text ++
          (if (front.getLast nonempty).isImport ∧ (back.head others).isImport then "\n" else "\n\n") ++
          render ⟨path, [], back⟩) ∧
      (header ≠ [] → render ⟨path, header, front⟩ =
        Text.unlines header ++ "\n\n" ++ render ⟨path, [], front⟩) := by
  constructor
  · intro back others
    obtain ⟨next, rest, rfl⟩ := List.exists_cons_of_ne_nil others
    have last := Draft.foldl_add nonempty (Draft.start header)
    have begun : (front.foldl Draft.add (Draft.start header)).blocks ≠ [] :=
      last ▸ Draft.blocks_add _ _
    have gap : (front.foldl Draft.add (Draft.start header)).gap next =
        if (front.getLast nonempty).isImport ∧ next.isImport then "\n" else "\n\n" := by
      rw [last, Draft.gap_add, Statement.separator]
      simp only [Bool.and_eq_true]
    refine ⟨(front.foldl Draft.add (Draft.start header)).text, render_eq_foldl _ _ _, ?_⟩
    rw [render_eq_foldl, List.foldl_append, Draft.text_addAll begun, gap, String.append_assoc]
    rfl
  · intro headed
    obtain ⟨line, lines, rfl⟩ := List.exists_cons_of_ne_nil headed
    obtain ⟨statement, rest, rfl⟩ := List.exists_cons_of_ne_nil nonempty
    rw [render_eq_foldl, Draft.text_addAll (List.cons_ne_nil _ _), String.append_assoc]
    rfl

/-- The first import of a file. -/
def firstImport : List Statement :=
  [.importNames ⟨"../utils", ["Configuration"], true⟩]

/-- What follows it: another import and a declaration. -/
def followers : List Statement :=
  [.importNames ⟨"../models", ["User"], true⟩, .typeAlias "Users" "User[]" true]

theorem render_append_followers : firstImport ≠ [] ∧ followers ≠ [] ∧ ∃ text,
    render ⟨"users.ts", ["// Generated."], firstImport⟩ = text ++ "\n" ∧
    render ⟨"users.ts", ["// Generated."], firstImport ++ followers⟩ =
      text ++ "\n" ++ render ⟨"users.ts", [], followers⟩ ∧
    render ⟨"users.ts", ["// Generated."], firstImport⟩ =
      Text.unlines ["// Generated."] ++ "\n\n" ++ render ⟨"users.ts", [], firstImport⟩ := by
  have nonempty : firstImport ≠ [] := List.cons_ne_nil _ _
  have others : followers ≠ [] := List.cons_ne_nil _ _
  obtain ⟨cut, headed⟩ := render_append "users.ts" ["// Generated."] nonempty
  obtain ⟨text, ends, whole⟩ := cut followers others
  exact ⟨nonempty, others, text, ends, whole, headed (List.cons_ne_nil _ _)⟩

end SourceFile

end TypedClient
