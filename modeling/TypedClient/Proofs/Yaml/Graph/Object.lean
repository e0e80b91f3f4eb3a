import TypedClient.Proofs.Yaml.Scalar
import TypedClient.Yaml.Graph.Object

/-!
The objects of a graph are proper: the keys of a mapping and the members of a set are distinct. Every step
that makes objects keeps them so.
-/

namespace TypedClient.Yaml

def AreProper (objects : Array (Option Object)) : Prop :=
  ∀ place object, objects.getD place none = some object → object.IsProper

theorem areProper_replicate (size : Nat) : AreProper (Array.replicate size none) := by
  intro place object found
  rw [Array.getD_eq_getD_getElem?, Array.getElem?_replicate] at found
  split at found <;> cases found

theorem AreProper.put {building : Building} (proper : AreProper building.objects)
    (objectProper : object.IsProper) (place : Nat) : AreProper (building.put place object).objects := by
  intro other present found
  rw [Building.put, Array.getD_eq_getD_getElem?, Array.getElem?_setIfInBounds] at found
  split at found
  · split at found
    · cases found
      exact objectProper
    · cases found
  · rw [← Array.getD_eq_getD_getElem?] at found
    exact proper other present found

namespace Making

/-- The step leaves proper objects behind, and what it gives is of some kind. -/
def Keeps (kind : α → Prop) (step : Making α) : Prop :=
  ∀ building, AreProper building.objects → ∀ result after,
    step building = .ok (result, after) → AreProper after.objects ∧ kind result

theorem keeps_pure {kind : α → Prop} (holds : kind result) : Keeps kind (pure result) := by
  rintro building proper _ _ ⟨⟩
  exact ⟨proper, holds⟩

theorem Keeps.bind {step : Making α} {next : α → Making β} {first : α → Prop} {second : β → Prop}
    (keeps : Keeps first step) (keepsNext : ∀ result, first result → Keeps second (next result)) :
    Keeps second (step >>= next) := by
  intro building proper result after success
  obtain ⟨⟨middle, between⟩, stepped, success⟩ := Outcome.bind_eq_ok.mp success
  obtain ⟨middleProper, holds⟩ := keeps building proper middle between stepped
  exact keepsNext middle holds between middleProper result after success

theorem keeps_get :
    Keeps (fun building => AreProper building.objects) (get : Making Building) := by
  rintro building proper _ _ ⟨⟩
  exact ⟨proper, proper⟩

theorem keeps_set {building : Building} (proper : AreProper building.objects) :
    Keeps (fun _ => True) (set building : Making Unit) := by
  rintro _ _ _ _ ⟨⟩
  exact ⟨proper, trivial⟩

theorem keeps_throw {kind : α → Prop} (fault : Fault) : Keeps kind (throw fault) := by
  rintro _ _ _ _ ⟨⟩

theorem keeps_lift {kind : α → Prop} {step : Except Fault α}
    (holds : ∀ result, step = .ok result → kind result) : Keeps kind (liftM step : Making α) := by
  intro building proper result after success
  obtain ⟨value, stepped, same⟩ := Outcome.bind_eq_ok.mp success
  cases same
  exact ⟨proper, holds _ stepped⟩

theorem keeps_forM {items : List α} {step : α → Making Unit}
    (each : ∀ item, Keeps (fun _ => True) (step item)) : Keeps (fun _ => True) (items.forM step) := by
  induction items with
  | nil => exact keeps_pure trivial
  | cons item rest ih => exact (each item).bind fun _ _ => ih

theorem keeps_mapM {items : List α} {step : α → Making β} {kind : β → Prop}
    (each : ∀ item, Keeps kind (step item)) :
    Keeps (fun results => ∀ result ∈ results, kind result) (items.mapM step) := by
  induction items with
  | nil => exact keeps_pure (by simp)
  | cons item rest ih =>
    rw [List.mapM_cons]
    refine (each item).bind fun first holds => ih.bind fun others othersHold => keeps_pure ?_
    exact List.forall_mem_cons.mpr ⟨holds, othersHold⟩

/-! ### Steps -/

theorem keeps_put (object : Object) (proper : object.IsProper) (place : Nat) :
    Keeps (fun _ => True) (Making.put place object) := by
  rintro building objects _ _ ⟨⟩
  exact ⟨objects.put proper place, trivial⟩

theorem isProper_emptyObject? (found : emptyObject? tag = some object) : object.IsProper := by
  cases tag <;> cases found <;> simp [Object.IsProper, Value.DistinctKeys]

theorem isProper_scalarValue (found : scalarValue graph place = .ok atom) : atom.IsProper := by
  unfold scalarValue at found
  dsimp only at found
  split at found
  · obtain ⟨_, failed, _⟩ := Outcome.bind_eq_ok.mp found
    cases failed
  · split at found
    · obtain ⟨_, _, valued⟩ := Outcome.bind_eq_ok.mp found
      exact Scalar.isProper_value valued
    · cases found

theorem keeps_make (place : Nat) : Keeps (fun _ => True) (make place) := by
  unfold make
  refine keeps_get.bind fun building proper => ?_
  split
  · exact keeps_pure trivial
  · split
    · rename_i object isEmpty
      exact keeps_set (proper.put (isProper_emptyObject? isEmpty) place)
    · exact (keeps_lift fun atom => isProper_scalarValue).bind fun atom holds =>
        keeps_put (.plain atom) holds place

theorem keeps_makeKey (place : Nat) : Keeps Atom.IsProper (makeKey place) := by
  unfold makeKey
  refine (keeps_make place).bind fun _ _ => keeps_get.bind fun building proper => ?_
  split
  · rename_i atom found
    exact keeps_pure (proper place _ found)
  · exact keeps_throw _

theorem keeps_makeEntry (entry : Nat × Nat) :
    Keeps (fun made => made.1.IsProper) (makeEntry entry) := by
  unfold makeEntry
  exact (keeps_makeKey _).bind fun key holds => (keeps_make _).bind fun _ _ => keeps_pure holds

def sameAtom (key other : Atom) : Bool :=
  Value.sameScalar key.value other.value

/-- Entries under proper keys are those of a proper mapping once they are written. -/
theorem isProper_collapse {entries : List (Atom × Nat)}
    (proper : ∀ entry ∈ entries, entry.1.IsProper) :
    (Object.mapping (collapse sameAtom entries)).IsProper := by
  obtain ⟨written, apart⟩ := keys_collapse sameAtom entries
  refine ⟨⟨fun key member => ?_, ?_⟩, fun entry member => ?_⟩
  · obtain ⟨entry, _, rfl⟩ := List.mem_map.mp member
    exact Value.isSome_scalar?_atom _
  · exact List.pairwise_map.mpr (List.pairwise_map.mp apart)
  · obtain ⟨source, present, same⟩ := List.mem_map.mp (written entry.1 (List.mem_map_of_mem member))
    exact same ▸ proper source present

theorem keeps_makeEntries (place : Nat) (tag : Tag) :
    Keeps (fun entries => (Object.mapping entries).IsProper) (makeEntries place tag) := by
  unfold makeEntries
  refine keeps_get.bind fun building proper => ?_
  split
  · have merged : Keeps (fun _ => True)
        (liftM (Graph.merge building.merges building.graph place) : Making Graph) :=
      keeps_lift fun _ _ => trivial
    refine merged.bind fun graph _ => (keeps_set ?_).bind fun _ _ =>
      (keeps_mapM keeps_makeEntry).bind fun entries each => keeps_pure (isProper_collapse each)
    exact proper
  · exact keeps_throw _

theorem keeps_makePair (tag : Tag) (place : Nat) : Keeps (fun _ => True) (makePair tag place) := by
  unfold makePair
  refine keeps_get.bind fun building proper => ?_
  split
  · exact (keeps_make _).bind fun _ _ => (keeps_make _).bind fun _ _ => keeps_pure trivial
  · exact keeps_throw _

theorem keeps_itemsOf (place : Nat) (tag : Tag) : Keeps (fun _ => True) (itemsOf place tag) := by
  unfold itemsOf
  refine keeps_get.bind fun building proper => ?_
  split
  · exact keeps_pure trivial
  · exact keeps_throw _

theorem keeps_makeMembers (place : Nat) : Keeps (fun _ => True) (makeMembers place) := by
  unfold makeMembers
  refine keeps_get.bind fun building proper => ?_
  split
  · exact (keeps_itemsOf _ _).bind fun items _ => (keeps_forM keeps_make).bind fun _ _ =>
      keeps_put (.list items) trivial place
  · exact (keeps_makeEntries _ _).bind fun entries holds => keeps_put (.mapping entries) holds place
  · refine (keeps_makeEntries _ _).bind fun entries holds =>
      keeps_put (.set (entries.map (·.1))) ⟨?_, ?_⟩ place
    · rw [List.map_map]
      exact holds.1
    · intro atom member
      obtain ⟨entry, present, rfl⟩ := List.mem_map.mp member
      exact holds.2 entry present
  · exact (keeps_itemsOf _ _).bind fun items _ => (keeps_mapM (keeps_makePair _)).bind fun pairs _ =>
      keeps_put (.pairs pairs) trivial place

theorem keeps_makeLevels (levels : Nat) : Keeps (fun _ => True) (makeLevels levels) := by
  induction levels with
  | zero => exact keeps_pure trivial
  | succ levels ih =>
    rw [makeLevels]
    refine keeps_get.bind fun building proper => ?_
    split
    · exact keeps_pure trivial
    · refine (keeps_set ?_).bind fun _ _ => (keeps_forM keeps_makeMembers).bind fun _ _ => ih
      exact proper

end Making

/-- The objects of a graph are proper. -/
theorem Graph.areProper_objects {graph : Graph} {made : Array (Option Object)}
    (found : graph.objects root = .ok made) : AreProper made := by
  unfold Graph.objects at found
  obtain ⟨⟨_, building⟩, run, same⟩ := Outcome.bind_eq_ok.mp found
  cases same
  have keeps := (Making.keeps_make root).bind fun _ _ =>
    Making.keeps_makeLevels (graph.nodes.size + 1)
  exact (keeps (.ofGraph graph) (areProper_replicate _) () building run).1

end TypedClient.Yaml
