import Mathlib.Data.List.Forall2
import Mathlib.Data.List.ProdSigma
import TypedClient.Proofs.Levels
import TypedClient.Proofs.Value.Proper

/-!
Equality of document values is an equivalence relation. Mappings and sets have distinct keys, so each
entry of one has its own partner in an equal one.

Comparing goes down level by level, and what comes out on some level is the answer. So there is an answer
unless comparing goes on forever, which takes two collections that hold themselves.
-/

namespace TypedClient.Value

/-! ### Levels -/

section

variable {first second : Value → Value → Option Bool}

theorem sameItems_congr {xs ys : List Value} (agree : ∀ x ∈ xs, ∀ y ∈ ys, first x y = second x y) :
    sameItems first xs ys = sameItems second xs ys := by
  induction xs generalizing ys with
  | nil => rfl
  | cons x xs ih =>
    cases ys with
    | nil => rfl
    | cons y ys =>
      have rest := ih fun x inXs y inYs =>
        agree x (List.mem_cons_of_mem _ inXs) y (List.mem_cons_of_mem _ inYs)
      rw [sameItems, sameItems, agree x List.mem_cons_self y List.mem_cons_self, rest]

theorem sameEntries_congr {xs ys : Entries}
    (agree : ∀ x ∈ xs, ∀ y ∈ ys, first y.2 x.2 = second y.2 x.2) :
    sameEntries first xs ys = sameEntries second xs ys := by
  induction xs with
  | nil => rfl
  | cons x xs ih =>
    obtain ⟨key, value⟩ := x
    rw [sameEntries, sameEntries, ih fun x inXs => agree x (List.mem_cons_of_mem _ inXs)]
    cases found : ys.find? fun y => sameScalar key y.1 with
    | none => rfl
    | some y => simp only [agree _ List.mem_cons_self y (List.mem_of_find?_eq_some found)]

/-- How two values compare depends on how their members do, either way round. -/
theorem sameBy_congr {a b : Value}
    (agree : ∀ x ∈ a.members, ∀ y ∈ b.members, first x y = second x y ∧ first y x = second y x) :
    sameBy first a b = sameBy second a b := by
  unfold members at agree
  unfold sameBy
  congr 1
  split
  · rename_i xs ys isList otherList
    simp only [isList, otherList] at agree
    rw [sameItems_congr fun x inXs y inYs => (agree x inXs y inYs).1]
  · rename_i xs ys isMapping otherMapping
    simp only [isMapping, otherMapping] at agree
    rw [sameEntries_congr fun x inXs y inYs =>
      (agree x.2 (List.mem_append_right _ (List.mem_map_of_mem inXs)) y.2
        (List.mem_append_right _ (List.mem_map_of_mem inYs))).2]
  · rfl
  · rename_i isPair otherPair
    simp only [isPair, otherPair] at agree
    exact sameItems_congr fun x inXs y inYs => (agree x inXs y inYs).1
  · rfl

variable (keeps : ∀ x y answer, first x y = some answer → second x y = some answer)

include keeps

theorem sameItems_keeps {xs ys : List Value} (found : sameItems first xs ys = some answer) :
    sameItems second xs ys = some answer := by
  induction xs generalizing ys with
  | nil => exact found
  | cons x xs ih =>
    cases ys with
    | nil => exact found
    | cons y ys =>
      obtain ⟨same, here, rest⟩ := Option.bind_eq_some_iff.mp found
      refine Option.bind_eq_some_iff.mpr ⟨same, keeps x y same here, ?_⟩
      cases same with
      | true => exact ih rest
      | false => exact rest

theorem sameEntries_keeps {xs ys : Entries} (found : sameEntries first xs ys = some answer) :
    sameEntries second xs ys = some answer := by
  induction xs with
  | nil => exact found
  | cons x xs ih =>
    obtain ⟨key, value⟩ := x
    rw [sameEntries] at found ⊢
    split at found
    · rename_i y _
      obtain ⟨same, here, rest⟩ := Option.bind_eq_some_iff.mp found
      refine Option.bind_eq_some_iff.mpr ⟨same, keeps y.2 value same here, ?_⟩
      cases same with
      | true => exact ih rest
      | false => exact rest
    · exact found

theorem sameBy_keeps {a b : Value} (found : sameBy first a b = some answer) :
    sameBy second a b = some answer := by
  unfold sameBy at found ⊢
  split at found
  · rename_i identical
    rw [if_pos identical]
    exact found
  · rename_i different
    rw [if_neg different]
    split at found
    · split at found
      · rename_i lengths
        rw [if_pos lengths]
        exact sameItems_keeps keeps found
      · rename_i lengths
        rw [if_neg lengths]
        exact found
    · split at found
      · rename_i lengths
        rw [if_pos lengths]
        exact sameEntries_keeps keeps found
      · rename_i lengths
        rw [if_neg lengths]
        exact found
    · exact found
    · exact sameItems_keeps keeps found
    · exact found

end

theorem sameWithin_succ (found : sameWithin levels a b = some answer) :
    sameWithin (levels + 1) a b = some answer := by
  induction levels generalizing a b answer with
  | zero => cases found
  | succ levels ih =>
    rw [sameWithin] at found ⊢
    exact sameBy_keeps (fun _ _ _ => ih) found

/-- Pairs of parts are compared level by level. -/
theorem gradual_same (a b : Value) :
    Levels.Gradual (fun level (pair : Value × Value) => sameWithin level pair.1 pair.2) Option.isSome
      (a.parts ×ˢ b.parts ++ b.parts ×ˢ a.parts) where
  keeps level pair found := by
    obtain ⟨answer, found⟩ := Option.isSome_iff_exists.mp found
    rw [found]
    exact sameWithin_succ found
  changes level pair none stillNone := by
    rw [Option.isSome_eq_false_iff, Option.isNone_iff_eq_none] at none stillNone
    rw [none, stillNone]
  follows level other agree pair member := by
    obtain ⟨x, y⟩ := pair
    refine sameBy_congr fun inner inX otherInner inY => ?_
    simp only [List.mem_append, List.mem_product] at member agree
    have ofParts {x y : Value} (inside : x ∈ a.parts ∧ y ∈ b.parts ∨ x ∈ b.parts ∧ y ∈ a.parts) :
        sameWithin level x y = sameWithin other x y := agree (x, y) (by simpa using inside)
    rcases member with ⟨isX, isY⟩ | ⟨isX, isY⟩
    all_goals
      have inner := mem_parts_of_members isX inX
      have otherInner := mem_parts_of_members isY inY
    · exact ⟨ofParts (.inl ⟨inner, otherInner⟩), ofParts (.inr ⟨otherInner, inner⟩)⟩
    · exact ⟨ofParts (.inr ⟨inner, otherInner⟩), ofParts (.inl ⟨otherInner, inner⟩)⟩

/-- What comes out on some level is the answer. -/
theorem same?_eq_some (found : sameWithin levels a b = some answer) : same? a b = some answer := by
  have member : (a, b) ∈ a.parts ×ˢ b.parts ++ b.parts ×ˢ a.parts := by
    simp [List.mem_product, mem_parts_self]
  have settled := (gradual_same a b).run_eq_of_ne member
    (Option.isSome_iff_exists.mpr ⟨answer, found⟩)
  have count : (a.parts ×ˢ b.parts ++ b.parts ×ˢ a.parts).length =
      2 * (a.parts.length * b.parts.length) := by
    simp only [List.length_append, List.length_product]
    rw [Nat.mul_comm b.parts.length]
    omega
  rw [same?, ← count]
  exact settled.trans found

/-- Comparing never ends when no number of levels is enough for it. -/
theorem same?_eq_none_iff {a b : Value} : same? a b = none ↔ ∀ levels, sameWithin levels a b = none := by
  constructor
  · intro never levels
    refine Option.eq_none_iff_forall_ne_some.mpr fun answer found => ?_
    rw [same?_eq_some found] at never
    cases never
  · exact fun never => never _

theorem sameWithin_mono (found : sameWithin levels a b = some answer) (further : levels ≤ more) :
    sameWithin more a b = some answer := by
  induction further with
  | refl => exact found
  | step _ ih => exact sameWithin_succ ih

/-! ### Partners -/

/-- When every item of a list has a partner in a list of the same length, and no two have the same one,
every item of the other list is a partner. -/
theorem exists_partner {Partner : α → β → Prop} {xs : List α} {ys : List β}
    (apart : xs.Pairwise fun x other => ∀ y ∈ ys, Partner x y → ¬Partner other y)
    (lengths : xs.length = ys.length) (each : ∀ x ∈ xs, ∃ y ∈ ys, Partner x y) :
    ∀ y ∈ ys, ∃ x ∈ xs, Partner x y := by
  induction xs generalizing ys with
  | nil =>
    obtain rfl := List.eq_nil_of_length_eq_zero lengths.symm
    simp
  | cons x rest ih =>
    obtain ⟨headApart, restApart⟩ := List.pairwise_cons.mp apart
    obtain ⟨partner, present, isPartner⟩ := each x List.mem_cons_self
    obtain ⟨before, after, rfl⟩ := List.append_of_mem present
    have others {y : β} (member : y ∈ before ++ after) : y ∈ before ++ partner :: after := by
      simp only [List.mem_append, List.mem_cons] at member ⊢
      tauto
    have covered : ∀ y ∈ before ++ after, ∃ x ∈ rest, Partner x y := by
      refine ih (restApart.imp fun apart y member => apart y (others member)) ?_ fun other member => ?_
      · simp only [List.length_cons, List.length_append] at lengths ⊢
        omega
      · obtain ⟨y, found, isOther⟩ := each other (List.mem_cons_of_mem x member)
        refine ⟨y, ?_, isOther⟩
        have different : y ≠ partner := by
          rintro rfl
          exact headApart other member y present isPartner isOther
        simpa [different] using found
    intro y member
    by_cases same : y = partner
    · exact ⟨x, List.mem_cons_self, same ▸ isPartner⟩
    · obtain ⟨other, inRest, isOther⟩ := covered y (by simpa [same] using member)
      exact ⟨other, List.mem_cons_of_mem x inRest, isOther⟩

/-- No two of distinct keys equal one key. -/
theorem DistinctKeys.apart {keys : List Value} (distinct : DistinctKeys keys)
    (proper : ∀ key ∈ keys, key.IsProper) :
    keys.Pairwise fun key other => ∀ found : Value, found.IsProper →
      sameScalar key found = true → ¬sameScalar other found = true := by
  refine distinct.2.imp_of_mem fun {key other} member otherMember different found foundProper same again => ?_
  have equal := sameScalar_trans (proper key member) foundProper (proper other otherMember) same
    (sameScalar_symm (proper other otherMember) foundProper again)
  exact Bool.eq_false_iff.mp different equal

theorem DistinctKeys.refl {keys : List Value} (distinct : DistinctKeys keys)
    (proper : ∀ key ∈ keys, key.IsProper) (member : key ∈ keys) : sameScalar key key = true :=
  (sameScalar_iff (proper key member) (proper key member)).mpr ⟨distinct.1 key member, rfl⟩


/-! ### Equal values -/

/-- Two values with their members are equal when members that belong together are related. -/
def Alike (related : Value → Value → Prop) : Value → Value → Prop
  | .list xs, .list ys => List.Forall₂ related xs ys
  | .mapping xs, .mapping ys =>
    xs.length = ys.length ∧ ∀ x ∈ xs, ∃ y ∈ ys, sameScalar x.1 y.1 = true ∧ related y.2 x.2
  | .set xs, .set ys => xs.length = ys.length ∧ ∀ x ∈ xs, ∃ y ∈ ys, sameScalar x y = true
  | .pair key value, .pair otherKey otherValue => related key otherKey ∧ related value otherValue
  | a, b => sameScalar a b = true

theorem sameItems_eq_true {inner : Value → Value → Option Bool} {xs ys : List Value}
    (lengths : xs.length = ys.length) : sameItems inner xs ys = some true ↔
      List.Forall₂ (fun x y => inner x y = some true) xs ys := by
  induction xs generalizing ys with
  | nil =>
    obtain rfl := List.eq_nil_of_length_eq_zero lengths.symm
    simp [sameItems]
  | cons x xs ih =>
    cases ys with
    | nil => cases lengths
    | cons y ys =>
      have rest := ih (Nat.succ.inj lengths)
      rw [sameItems, List.forall₂_cons, ← rest]
      cases inner x y with
      | none => simp
      | some same => cases same <;> simp

/-- Of distinct keys that one is found which equals a key. -/
theorem find?_key_eq_some {ys : Entries} {key : Value} (keyProper : key.IsProper)
    (distinct : DistinctKeys (ys.map (·.1))) (proper : ∀ y ∈ ys, y.1.IsProper) (member : y ∈ ys)
    (equal : sameScalar key y.1 = true) : ys.find? (fun y => sameScalar key y.1) = some y := by
  induction ys with
  | nil => cases member
  | cons first rest ih =>
    obtain ⟨firstApart, restApart⟩ := List.pairwise_cons.mp distinct.2
    obtain ⟨firstProper, restProper⟩ := List.forall_mem_cons.mp proper
    rcases List.mem_cons.mp member with rfl | later
    · simp only [List.find?_cons, equal]
    · have restDistinct : DistinctKeys (rest.map (·.1)) :=
        ⟨fun key inside => distinct.1 key (List.mem_cons_of_mem _ inside), restApart⟩
      have different : sameScalar key first.1 = false := by
        refine Bool.eq_false_iff.mpr fun same => ?_
        have twice := sameScalar_trans firstProper keyProper (restProper y later)
          (sameScalar_symm keyProper firstProper same) equal
        exact Bool.eq_false_iff.mp (firstApart y.1 (List.mem_map_of_mem later)) twice
      simp only [List.find?_cons, different]
      exact ih restDistinct restProper later

theorem sameEntries_eq_true {inner : Value → Value → Option Bool} {xs ys : Entries}
    (keys : ∀ x ∈ xs, x.1.IsProper) (distinct : DistinctKeys (ys.map (·.1)))
    (proper : ∀ y ∈ ys, y.1.IsProper) : sameEntries inner xs ys = some true ↔
      ∀ x ∈ xs, ∃ y ∈ ys, sameScalar x.1 y.1 = true ∧ inner y.2 x.2 = some true := by
  induction xs with
  | nil => simp [sameEntries]
  | cons x xs ih =>
    obtain ⟨keyProper, keysProper⟩ := List.forall_mem_cons.mp keys
    obtain ⟨key, value⟩ := x
    have rest := ih keysProper
    have first : (∃ y ∈ ys, sameScalar key y.1 = true ∧ inner y.2 value = some true) ↔
        ∃ y, ys.find? (fun y => sameScalar key y.1) = some y ∧ inner y.2 value = some true := by
      constructor
      · rintro ⟨y, member, equal, same⟩
        exact ⟨y, find?_key_eq_some keyProper distinct proper member equal, same⟩
      · rintro ⟨y, found, same⟩
        exact ⟨y, List.mem_of_find?_eq_some found, by simpa using List.find?_some found, same⟩
    rw [sameEntries, List.forall_mem_cons, first, ← rest]
    cases ys.find? fun y => sameScalar key y.1 with
    | none => simp
    | some y =>
      cases here : inner y.2 value with
      | none => simp [here]
      | some same => cases same <;> simp [here]

/-- Two values are equal when they are one object, or else by what they hold. -/
theorem sameBy_eq_true {inner : Value → Value → Option Bool} {a b : Value} (first : a.IsProper)
    (second : b.IsProper) : sameBy inner a b = some true ↔
      isIdentical a b = true ∨ Alike (fun x y => inner x y = some true) a.opened b.opened := by
  have firstOpened := first.opened
  have secondOpened := second.opened
  unfold sameBy
  by_cases identical : isIdentical a b = true
  · simp [identical]
  rw [if_neg identical, or_iff_right identical]
  generalize a.opened = c at firstOpened ⊢
  generalize b.opened = d at secondOpened ⊢
  cases c with
  | list xs =>
    cases d with
    | list ys =>
      simp only [Alike]
      split
      · rename_i lengths
        exact sameItems_eq_true lengths
      · rename_i lengths
        exact iff_of_false (by simp) fun alike => lengths alike.length_eq
    | _ => simp [Alike]
  | mapping xs =>
    cases d with
    | mapping ys =>
      rw [IsProper] at firstOpened secondOpened
      have properXs := entriesAreProper_iff.mp firstOpened.2
      have properYs := entriesAreProper_iff.mp secondOpened.2
      simp only [Alike]
      split
      · rename_i lengths
        rw [sameEntries_eq_true (fun x member => (properXs x member).1) secondOpened.1
          fun y member => (properYs y member).1, and_iff_right lengths]
      · rename_i lengths
        exact iff_of_false (by simp) fun alike => lengths alike.1
    | _ => simp [Alike]
  | set xs => cases d <;> simp [Alike]
  | pair key value =>
    cases d with
    | pair otherKey otherValue =>
      have pairs : sameItems inner [key, value] [otherKey, otherValue] = some true ↔ _ :=
        sameItems_eq_true rfl
      simpa [Alike] using pairs
    | _ => simp [Alike]
  | _ => cases d <;> simp [Alike]

theorem forall₂_symm {related further : Value → Value → Prop}
    (reversed : ∀ x y, x.IsProper → y.IsProper → related x y → further y x)
    (each : List.Forall₂ related xs ys) (first : ∀ x ∈ xs, x.IsProper) (second : ∀ y ∈ ys, y.IsProper) :
    List.Forall₂ further ys xs := by
  induction each with
  | nil => exact .nil
  | cons here _ ih =>
    obtain ⟨xProper, xsProper⟩ := List.forall_mem_cons.mp first
    obtain ⟨yProper, ysProper⟩ := List.forall_mem_cons.mp second
    exact .cons (reversed _ _ xProper yProper here) (ih xsProper ysProper)

theorem forall₂_trans {related : Value → Value → Prop}
    (joined : ∀ x y z, x.IsProper → y.IsProper → z.IsProper → related x y → related y z → related x z)
    (each : List.Forall₂ related xs ys) (further : List.Forall₂ related ys zs)
    (first : ∀ x ∈ xs, x.IsProper) (second : ∀ y ∈ ys, y.IsProper) (third : ∀ z ∈ zs, z.IsProper) :
    List.Forall₂ related xs zs := by
  induction each generalizing zs with
  | nil =>
    cases further
    exact .nil
  | cons here _ ih =>
    obtain ⟨xProper, xsProper⟩ := List.forall_mem_cons.mp first
    obtain ⟨yProper, ysProper⟩ := List.forall_mem_cons.mp second
    cases further with
    | cons there rest =>
      obtain ⟨zProper, zsProper⟩ := List.forall_mem_cons.mp third
      exact .cons (joined _ _ _ xProper yProper zProper here there) (ih rest xsProper ysProper zsProper)

theorem Alike.symm {related further : Value → Value → Prop} {a b : Value}
    (reversed : ∀ x y, x.IsProper → y.IsProper → related x y → further y x) (first : a.IsProper)
    (second : b.IsProper) (alike : Alike related a b) : Alike further b a := by
  cases a with
  | list xs =>
    cases b with
    | list ys =>
      rw [IsProper, areProper_iff] at first second
      exact forall₂_symm reversed alike first second
    | _ => simp [Alike, sameScalar, asInt?] at alike
  | mapping xs =>
    cases b with
    | mapping ys =>
      rw [IsProper, entriesAreProper_iff] at first second
      obtain ⟨lengths, each⟩ := alike
      have keysApart := first.1.apart fun key member => by
        obtain ⟨entry, present, rfl⟩ := List.mem_map.mp member
        exact (first.2 entry present).1
      have apart : xs.Pairwise fun x other => ∀ y ∈ ys,
          (sameScalar x.1 y.1 = true ∧ related y.2 x.2) →
            ¬(sameScalar other.1 y.1 = true ∧ related y.2 other.2) :=
        (List.pairwise_map.mp keysApart).imp fun apart y member keys again =>
          apart y.1 (second.2 y member).1 keys.1 again.1
      refine ⟨lengths.symm, fun y member => ?_⟩
      obtain ⟨x, present, keys, values⟩ := exists_partner apart lengths each y member
      have xProper := first.2 x present
      have yProper := second.2 y member
      exact ⟨x, present, sameScalar_symm xProper.1 yProper.1 keys,
        reversed y.2 x.2 yProper.2 xProper.2 values⟩
    | _ => simp [Alike, sameScalar, asInt?] at alike
  | set xs =>
    cases b with
    | set ys =>
      rw [IsProper, areProper_iff] at first second
      obtain ⟨lengths, each⟩ := alike
      have apart := (first.1.apart first.2).imp fun {x other} apart y (member : y ∈ ys) =>
        apart y (second.2 y member)
      refine ⟨lengths.symm, fun y member => ?_⟩
      obtain ⟨x, present, members⟩ := exists_partner apart lengths each y member
      exact ⟨x, present, sameScalar_symm (first.2 x present) (second.2 y member) members⟩
    | _ => simp [Alike, sameScalar, asInt?] at alike
  | pair key value =>
    cases b with
    | pair otherKey otherValue =>
      rw [IsProper] at first second
      exact ⟨reversed _ _ first.1 second.1 alike.1, reversed _ _ first.2 second.2 alike.2⟩
    | _ => simp [Alike, sameScalar, asInt?] at alike
  | _ =>
    cases b with
    | list | mapping | set | pair | knot => simp [Alike, sameScalar, asInt?] at alike
    | _ => exact sameScalar_symm first second alike

theorem Alike.trans {related : Value → Value → Prop} {a b c : Value}
    (joined : ∀ x y z, x.IsProper → y.IsProper → z.IsProper → related x y → related y z → related x z)
    (first : a.IsProper) (second : b.IsProper) (third : c.IsProper) (alike : Alike related a b)
    (further : Alike related b c) : Alike related a c := by
  cases b with
  | list ys =>
    cases a with
    | list xs =>
      cases c with
      | list zs =>
        rw [IsProper, areProper_iff] at first second third
        exact forall₂_trans joined alike further first second third
      | _ => simp [Alike, sameScalar, asInt?] at further
    | _ => simp [Alike, sameScalar, asInt?] at alike
  | mapping ys =>
    cases a with
    | mapping xs =>
      cases c with
      | mapping zs =>
        rw [IsProper, entriesAreProper_iff] at first second third
        refine ⟨alike.1.trans further.1, fun x present => ?_⟩
        obtain ⟨y, member, keys, values⟩ := alike.2 x present
        obtain ⟨z, memberAgain, keysAgain, valuesAgain⟩ := further.2 y member
        obtain ⟨xKey, xValue⟩ := first.2 x present
        obtain ⟨yKey, yValue⟩ := second.2 y member
        obtain ⟨zKey, zValue⟩ := third.2 z memberAgain
        exact ⟨z, memberAgain, sameScalar_trans xKey yKey zKey keys keysAgain,
          joined z.2 y.2 x.2 zValue yValue xValue valuesAgain values⟩
      | _ => simp [Alike, sameScalar, asInt?] at further
    | _ => simp [Alike, sameScalar, asInt?] at alike
  | set ys =>
    cases a with
    | set xs =>
      cases c with
      | set zs =>
        rw [IsProper, areProper_iff] at first second third
        refine ⟨alike.1.trans further.1, fun x present => ?_⟩
        obtain ⟨y, member, members⟩ := alike.2 x present
        obtain ⟨z, memberAgain, membersAgain⟩ := further.2 y member
        exact ⟨z, memberAgain, sameScalar_trans (first.2 x present) (second.2 y member)
          (third.2 z memberAgain) members membersAgain⟩
      | _ => simp [Alike, sameScalar, asInt?] at further
    | _ => simp [Alike, sameScalar, asInt?] at alike
  | pair key value =>
    cases a with
    | pair =>
      cases c with
      | pair =>
        rw [IsProper] at first second third
        exact ⟨joined _ _ _ first.1 second.1 third.1 alike.1 further.1,
          joined _ _ _ first.2 second.2 third.2 alike.2 further.2⟩
      | _ => simp [Alike, sameScalar, asInt?] at further
    | _ => simp [Alike, sameScalar, asInt?] at alike
  | knot => cases a <;> simp [Alike, sameScalar, asInt?] at alike
  | _ =>
    cases a with
    | list | mapping | set | pair | knot => simp [Alike, sameScalar, asInt?] at alike
    | _ =>
      cases c with
      | list | mapping | set | pair | knot => simp [Alike, sameScalar, asInt?] at further
      | _ => exact sameScalar_trans first second third alike further

theorem isIdentical_iff {a b : Value} :
    isIdentical a b = true ↔ a = b ∧ ∃ collection, a = .knot collection := by
  unfold isIdentical
  split
  · simp
  · rename_i notBoth
    refine iff_of_false (by simp) ?_
    rintro ⟨rfl, collection, rfl⟩
    exact notBoth collection collection rfl rfl

/-- A value without members of its own kind in a table equals itself on the level of its parts. -/
theorem sameWithin_refl {value : Value} (proper : value.IsProper)
    (enough : value.parts.length ≤ levels) : sameWithin levels value value = some true := by
  induction levels generalizing value with
  | zero => exact absurd (List.length_pos_of_mem (mem_parts_self value)) (by omega)
  | succ levels ih =>
    rw [sameWithin, sameBy_eq_true proper proper]
    by_cases inTable : ∃ collection, value = .knot collection
    · exact .inl (isIdentical_iff.mpr ⟨rfl, inTable⟩)
    · right
      have outside (collection : Knot) : value ≠ .knot collection := fun same => inTable ⟨_, same⟩
      have shorter {inner : Value} (member : inner ∈ value.members) : inner.parts.length ≤ levels := by
        have := length_parts_lt outside member
        omega
      cases value with
      | list items =>
        rw [IsProper, areProper_iff] at proper
        exact List.forall₂_same.mpr fun item member => ih (proper item member) (shorter member)
      | mapping entries =>
        rw [IsProper, entriesAreProper_iff] at proper
        refine ⟨rfl, fun entry member => ⟨entry, member, ?_, ?_⟩⟩
        · refine proper.1.refl (fun key isKey => ?_) (List.mem_map_of_mem member)
          obtain ⟨other, present, rfl⟩ := List.mem_map.mp isKey
          exact (proper.2 other present).1
        · exact ih (proper.2 entry member).2
            (shorter (List.mem_append_right _ (List.mem_map_of_mem member)))
      | set members =>
        rw [IsProper, areProper_iff] at proper
        exact ⟨rfl, fun member present => ⟨member, present, proper.1.refl proper.2 present⟩⟩
      | pair key value =>
        rw [IsProper] at proper
        exact ⟨ih proper.1 (shorter (by simp [members, opened])),
          ih proper.2 (shorter (by simp [members, opened]))⟩
      | knot collection => exact absurd rfl (outside collection)
      | _ => exact (sameScalar_iff proper proper).mpr ⟨rfl, rfl⟩

theorem sameWithin_symm {a b : Value} (first : a.IsProper) (second : b.IsProper)
    (equal : sameWithin levels a b = some true) : sameWithin levels b a = some true := by
  induction levels generalizing a b with
  | zero => cases equal
  | succ levels ih =>
    rw [sameWithin] at equal ⊢
    rcases (sameBy_eq_true first second).mp equal with identical | alike
    · obtain ⟨rfl, _⟩ := isIdentical_iff.mp identical
      exact equal
    · refine (sameBy_eq_true second first).mpr (.inr ?_)
      exact alike.symm (fun x y xProper yProper => ih xProper yProper) first.opened second.opened

theorem sameWithin_trans {a b c : Value} (first : a.IsProper) (second : b.IsProper)
    (third : c.IsProper) (equal : sameWithin levels a b = some true)
    (further : sameWithin levels b c = some true) : sameWithin levels a c = some true := by
  induction levels generalizing a b c with
  | zero => cases equal
  | succ levels ih =>
    rw [sameWithin] at equal further ⊢
    rcases (sameBy_eq_true first second).mp equal with identical | alike
    · obtain ⟨rfl, _⟩ := isIdentical_iff.mp identical
      exact further
    rcases (sameBy_eq_true second third).mp further with identical | alikeAgain
    · obtain ⟨rfl, _⟩ := isIdentical_iff.mp identical
      exact equal
    · refine (sameBy_eq_true first third).mpr (.inr ?_)
      exact alike.trans (fun x y z xProper yProper zProper => ih xProper yProper zProper)
        first.opened second.opened third.opened alikeAgain

/-- A value of a document equals itself. -/
theorem same?_refl {value : Value} (proper : value.IsProper) : same? value value = some true :=
  same?_eq_some (sameWithin_refl proper (Nat.le_refl _))

theorem same?_symm {a b : Value} (first : a.IsProper) (second : b.IsProper)
    (equal : same? a b = some true) : same? b a = some true :=
  same?_eq_some (sameWithin_symm first second equal)

theorem same?_trans {a b c : Value} (first : a.IsProper) (second : b.IsProper) (third : c.IsProper)
    (equal : same? a b = some true) (further : same? b c = some true) : same? a c = some true := by
  have deep := sameWithin_mono equal (Nat.le_max_left _ (2 * (b.parts.length * c.parts.length)))
  have deepAgain := sameWithin_mono further (Nat.le_max_right (2 * (a.parts.length * b.parts.length)) _)
  exact same?_eq_some (sameWithin_trans first second third deep deepAgain)

/-! ### Comparing without end -/

theorem isSome_sameItems {inner : Value → Value → Option Bool} {xs ys : List Value}
    (each : ∀ x ∈ xs, ∀ y ∈ ys, (inner x y).isSome = true) : (sameItems inner xs ys).isSome = true := by
  induction xs generalizing ys with
  | nil => rfl
  | cons x xs ih =>
    cases ys with
    | nil => rfl
    | cons y ys =>
      obtain ⟨same, here⟩ := Option.isSome_iff_exists.mp (each x List.mem_cons_self y List.mem_cons_self)
      rw [sameItems, here]
      cases same with
      | true =>
        exact ih fun x inXs y inYs =>
          each x (List.mem_cons_of_mem _ inXs) y (List.mem_cons_of_mem _ inYs)
      | false => rfl

theorem isSome_sameEntries {inner : Value → Value → Option Bool} {xs ys : Entries}
    (each : ∀ x ∈ xs, ∀ y ∈ ys, (inner y.2 x.2).isSome = true) :
    (sameEntries inner xs ys).isSome = true := by
  induction xs with
  | nil => rfl
  | cons x xs ih =>
    obtain ⟨key, value⟩ := x
    rw [sameEntries]
    cases found : ys.find? fun y => sameScalar key y.1 with
    | none => rfl
    | some y =>
      obtain ⟨same, here⟩ := Option.isSome_iff_exists.mp
        (each _ List.mem_cons_self y (List.mem_of_find?_eq_some found))
      simp only at here ⊢
      rw [here]
      cases same with
      | true => exact ih fun x inXs => each x (List.mem_cons_of_mem _ inXs)
      | false => rfl

theorem isSome_sameBy {inner : Value → Value → Option Bool} {a b : Value}
    (each : ∀ x ∈ a.members, ∀ y ∈ b.members, (inner x y).isSome = true ∧ (inner y x).isSome = true) :
    (sameBy inner a b).isSome = true := by
  unfold members at each
  unfold sameBy
  split
  · rfl
  split
  · rename_i xs ys isList otherList
    simp only [isList, otherList] at each
    split
    · exact isSome_sameItems fun x inXs y inYs => (each x inXs y inYs).1
    · rfl
  · rename_i xs ys isMapping otherMapping
    simp only [isMapping, otherMapping] at each
    split
    · exact isSome_sameEntries fun x inXs y inYs =>
        (each x.2 (List.mem_append_right _ (List.mem_map_of_mem inXs)) y.2
          (List.mem_append_right _ (List.mem_map_of_mem inYs))).2
    · rfl
  · rfl
  · rename_i isPair otherPair
    simp only [isPair, otherPair] at each
    exact isSome_sameItems fun x inXs y inYs => (each x inXs y inYs).1
  · rfl

theorem isSome_sameWithin {a : Value} (tree : a.IsTree) (enough : a.parts.length ≤ levels)
    (b : Value) : (sameWithin levels a b).isSome = true ∧ (sameWithin levels b a).isSome = true := by
  induction levels generalizing a b with
  | zero => exact absurd (List.length_pos_of_mem (mem_parts_self a)) (by omega)
  | succ levels ih =>
    have inner {x : Value} (member : x ∈ a.members) (y : Value) :=
      have shorter := length_parts_lt tree.outside member
      ih (tree.members member) (by omega) y
    exact ⟨isSome_sameBy fun x inA y _ => inner inA y,
      isSome_sameBy fun y _ x inA => (inner inA y).symm⟩

/-- Comparing ends when one of the two values holds no collection that may hold itself. -/
theorem isSome_same? {a b : Value} (tree : a.IsTree ∨ b.IsTree) : (same? a b).isSome = true := by
  have found : ∃ levels answer, sameWithin levels a b = some answer := by
    rcases tree with tree | tree
    · exact ⟨_, Option.isSome_iff_exists.mp (isSome_sameWithin tree (Nat.le_refl _) b).1⟩
    · exact ⟨_, Option.isSome_iff_exists.mp (isSome_sameWithin tree (Nat.le_refl _) a).2⟩
  obtain ⟨levels, answer, found⟩ := found
  exact Option.isSome_iff_exists.mpr ⟨answer, same?_eq_some found⟩

end TypedClient.Value
