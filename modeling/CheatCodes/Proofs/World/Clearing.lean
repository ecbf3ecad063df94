import CheatCodes.Proofs.World.Ground
import Mathlib.Data.List.Basic
/-!
Clearing the buildings of several players, one player after the other. A world clears another of
some owners' buildings when just these are gone from it, together with the slots that point at one
of them. Such steps add up to one for all their owners, in whatever order they are taken; only the
events tell the order.
-/
namespace CheatCodes

def NodeObject.removal (pt : Point) : NodeObject → List Event
  | .nothing => []
  | .environment => [.objectCleared pt]
  | .building b => [.buildingDestroyed pt b.kind b.owner]

def Event.demolition (site : Point × Building) : Event :=
  .buildingDestroyed site.1 site.2.kind site.2.owner

def NodeObject.raze (owners : PlayerId → Bool) : NodeObject → NodeObject
  | .building b => if owners b.owner then .nothing else .building b
  | object => object

theorem NodeObject.raze_raze (f g : PlayerId → Bool) (object : NodeObject) :
    (object.raze f).raze g = object.raze fun p => f p || g p := by
  cases object with
  | nothing => rfl
  | environment => rfl
  | building b =>
    by_cases first : f b.owner = true
    · simp [raze, first]
    · simp [raze, first]

theorem NodeObject.raze_eq_building {f : PlayerId → Bool} {object : NodeObject} {b : Building} :
    object.raze f = .building b ↔ object = .building b ∧ f b.owner = false := by
  cases object with
  | nothing => simp [raze]
  | environment => simp [raze]
  | building a =>
    by_cases gone : f a.owner = true
    · rw [raze, if_pos gone, NodeObject.building.injEq]
      refine iff_of_false NodeObject.noConfusion ?_
      rintro ⟨rfl, spared⟩
      rw [spared] at gone
      cases gone
    · rw [raze, if_neg gone, NodeObject.building.injEq]
      refine (and_iff_left_of_imp ?_).symm
      rintro rfl
      exact Bool.eq_false_iff.2 gone

namespace World

theorem node?_of_object? {w w' : World} (same : w'.ground = w.ground) {pt : Point}
    {f : NodeObject → NodeObject} (h : w'.object? pt = (w.object? pt).map f) :
    w'.node? pt = (w.node? pt).map fun n => { n with object := f n.object } := by
  have plots := plot?_congr same pt
  rw [object?, object?] at h
  cases before : w.node? pt with
  | none =>
    rw [before] at plots
    simpa using plots
  | some n =>
    cases after : w'.node? pt with
    | none => simp [before, after] at plots
    | some n' =>
      obtain ⟨owner, quality, resource⟩ : n'.owner = n.owner ∧ n'.quality = n.quality ∧
          n'.resource = n.resource := by simpa [before, after, Node.plot] using plots
      have object : n'.object = f n.object := by simpa [before, after] using h
      cases n'
      subst owner quality resource object
      rfl

/-- The second world is the first without the buildings of some owners and without the slots that
point at one of their own. -/
structure Clears (owners : PlayerId → Bool) (w w' : World) : Prop where
  node : ∀ pt,
    w'.node? pt = (w.node? pt).map fun n => { n with object := n.object.raze owners }
  roster : w'.roster = w.roster
  hq : ∀ p pt, w'.hq? p = some pt ↔
    w.hq? p = some pt ∧ ¬ (owners p = true ∧ w.hasBuilding p pt = true)

namespace Clears

variable {f g : PlayerId → Bool} {w w₁ w₂ : World}

theorem object (h : Clears f w w₁) (pt : Point) :
    w₁.object? pt = (w.object? pt).map (·.raze f) := by
  rw [object?, h.node, object?, Option.map_map, Option.map_map]
  rfl

theorem object_eq_building (h : Clears f w w₁) {pt : Point} {b : Building} :
    w₁.object? pt = some (.building b) ↔
      w.object? pt = some (.building b) ∧ f b.owner = false := by
  simp only [h.object, Option.map_eq_some_iff, NodeObject.raze_eq_building]
  constructor
  · rintro ⟨_, stands, rfl, spared⟩
    exact ⟨stands, spared⟩
  · rintro ⟨stands, spared⟩
    exact ⟨_, stands, rfl, spared⟩

theorem hasBuilding (h : Clears f w w₁) (p : PlayerId) (pt : Point) :
    w₁.hasBuilding p pt = (!f p && w.hasBuilding p pt) := by
  rw [Bool.eq_iff_iff, Bool.and_eq_true, Bool.not_eq_true', hasBuilding_iff, hasBuilding_iff]
  constructor
  · rintro ⟨b, stands, rfl⟩
    obtain ⟨stood, spared⟩ := h.object_eq_building.1 stands
    exact ⟨spared, b, stood, rfl⟩
  · rintro ⟨spared, b, stood, rfl⟩
    exact ⟨b, h.object_eq_building.2 ⟨stood, spared⟩, rfl⟩

theorem refl (w : World) : Clears (fun _ => false) w w where
  node pt := by
    have kept (object : NodeObject) : object.raze (fun _ => false) = object := by
      cases object <;> rfl
    simp [kept]
  roster := rfl
  hq p pt := by simp

theorem trans (first : Clears f w w₁) (second : Clears g w₁ w₂) :
    Clears (fun p => f p || g p) w w₂ where
  node pt := by
    rw [second.node, first.node, Option.map_map]
    simp only [Function.comp_def, NodeObject.raze_raze]
  roster := second.roster.trans first.roster
  hq p pt := by
    rw [second.hq, first.hq, first.hasBuilding]
    cases f p with
    | false => simp
    | true => simp

theorem unique (left : Clears f w w₁) (right : Clears f w w₂) :
    (∀ pt, w₁.node? pt = w₂.node? pt) ∧ ∀ p, w₁.hq? p = w₂.hq? p := by
  refine ⟨fun pt => (left.node pt).trans (right.node pt).symm, fun p => Option.ext fun pt => ?_⟩
  rw [left.hq, right.hq]

end Clears

theorem clears_destroyBuildingsOf (w : World) (p : PlayerId) :
    Clears (fun q => q = p) w (w.destroyBuildingsOf p).2 where
  node pt := by
    apply node?_of_object? (w.ground_destroyBuildingsOf p)
    rw [object?_destroyBuildingsOf, hasBuilding]
    rcases w.object? pt with _ | _ | _ | b
    · simp
    · simp [NodeObject.belongsTo, NodeObject.raze]
    · simp [NodeObject.belongsTo, NodeObject.raze]
    · by_cases own : b.owner = p
      · simp [NodeObject.belongsTo, NodeObject.raze, own]
      · simp [NodeObject.belongsTo, NodeObject.raze, own]
  roster := w.roster_destroyBuildingsOf p
  hq q pt := by simp only [hq?_destroyBuildingsOf_eq_some, decide_eq_true_eq]

theorem clears_destroyBuildings (ps : List PlayerId) (w : World) :
    Clears (fun q => q ∈ ps) w (ps.foldl (fun w p => (w.destroyBuildingsOf p).2) w) := by
  induction ps generalizing w with
  | nil => simpa using Clears.refl w
  | cons p ps ih =>
    have both := (w.clears_destroyBuildingsOf p).trans (ih (w.destroyBuildingsOf p).2)
    simpa only [List.foldl_cons, List.mem_cons, Bool.decide_or] using both

/-! What the events tell. -/

def removal (w : World) (pt : Point) : List Event :=
  (w.object? pt).elim [] (NodeObject.removal pt)

theorem events_destroyObject (w : World) (pt : Point) :
    (w.destroyObject pt).events.toList = w.events.toList ++ w.removal pt := by
  have silent : (w.setObject pt .nothing).events = w.events := editNode_events ..
  unfold destroyObject removal
  split <;> rename_i found <;> simp [found, NodeObject.removal, silent]

def holding? (w : World) (p : PlayerId) (pt : Point) : Option Building :=
  ((w.object? pt).bind (·.building?)).filter (·.owner = p)

theorem holding?_eq_some {w : World} {p : PlayerId} {pt : Point} {b : Building} :
    w.holding? p pt = some b ↔ w.object? pt = some (.building b) ∧ b.owner = p := by
  have read (object : NodeObject) : object.building? = some b ↔ object = .building b := by
    cases object <;> simp [NodeObject.building?]
  rw [holding?, Option.filter_eq_some_iff, Option.bind_eq_some_iff]
  simp [read]

def holdings (w : World) (p : PlayerId) : List (Point × Building) :=
  w.points.filterMap fun pt => (w.holding? p pt).map (pt, ·)

theorem mem_holdings {w : World} {p : PlayerId} {pt : Point} {b : Building} :
    (pt, b) ∈ w.holdings p ↔ w.object? pt = some (.building b) ∧ b.owner = p := by
  simp only [holdings, List.mem_filterMap, Option.map_eq_some_iff, Prod.mk.injEq,
    holding?_eq_some]
  constructor
  · rintro ⟨_, _, _, held, rfl, rfl⟩
    exact held
  · intro held
    exact ⟨pt, mem_points.2 (contains_of_object? held.1), b, held, rfl, rfl⟩

theorem pairwise_holdings (w : World) (p : PlayerId) :
    (w.holdings p).Pairwise fun m n => m.1.Before n.1 := by
  rw [holdings, List.pairwise_filterMap]
  refine w.pairwise_points.imp fun {pt qt} before m here n there => ?_
  obtain ⟨_, _, rfl⟩ := Option.map_eq_some_iff.1 here
  obtain ⟨_, _, rfl⟩ := Option.map_eq_some_iff.1 there
  exact before

theorem Clears.holdings {f : PlayerId → Bool} {w w' : World} (h : Clears f w w')
    (points : w'.points = w.points) {p : PlayerId} (spared : f p = false) :
    w'.holdings p = w.holdings p := by
  have same (pt : Point) : w'.holding? p pt = w.holding? p pt := by
    refine Option.ext fun b => ?_
    rw [holding?_eq_some, holding?_eq_some, h.object_eq_building]
    refine and_congr_left ?_
    rintro rfl
    exact and_iff_left spared
  rw [World.holdings, World.holdings, points]
  simp only [same]

/-- The order in which clearing comes upon buildings: by their owners, then row by row. -/
def RazedBefore (m n : Point × Building) : Prop :=
  m.2.owner < n.2.owner ∨ m.2.owner = n.2.owner ∧ m.1.Before n.1

theorem pairwise_flatMap_holdings {ps : List PlayerId} (ascending : ps.Pairwise (· < ·))
    (w : World) : (ps.flatMap w.holdings).Pairwise RazedBefore := by
  have owned {p : PlayerId} {m : Point × Building} (listed : m ∈ w.holdings p) : m.2.owner = p :=
    (mem_holdings.1 listed).2
  rw [List.pairwise_flatMap]
  constructor
  · intro p _
    apply (w.pairwise_holdings p).imp_of_mem
    intro m n here there before
    exact .inr ⟨(owned here).trans (owned there).symm, before⟩
  · refine ascending.imp fun {p q} before m here n there => .inl ?_
    rw [owned here, owned there]
    exact before

theorem events_destroyAll {pts : List Point} (once : pts.Nodup) (w : World) :
    (pts.foldl destroyObject w).events.toList =
      w.events.toList ++ pts.flatMap w.removal := by
  induction pts generalizing w with
  | nil => simp
  | cons pt pts ih =>
    obtain ⟨fresh, once⟩ := List.nodup_cons.1 once
    -- No node is cleared twice, so the later ones are found as they stand in the first world.
    have later : pts.flatMap (w.destroyObject pt).removal = pts.flatMap w.removal := by
      apply List.flatMap_congr
      intro qt listed
      have apart : qt ≠ pt := by
        rintro rfl
        exact fresh listed
      rw [removal, object?_destroyObject, if_neg apart, removal]
    rw [List.foldl_cons, ih once, events_destroyObject, later, List.flatMap_cons,
      List.append_assoc]

theorem map_fst_holdings (w : World) (p : PlayerId) :
    (w.holdings p).map Prod.fst = w.buildingsOf p := by
  have site (pt : Point) :
      ((w.holding? p pt).map (pt, ·)).map Prod.fst = Option.guard (w.hasBuilding p) pt := by
    cases held : w.holding? p pt with
    | none =>
      have other : w.hasBuilding p pt = false := by
        rw [Bool.eq_false_iff]
        intro own
        obtain ⟨b, stands⟩ := hasBuilding_iff.1 own
        rw [holding?_eq_some.2 stands] at held
        cases held
      simp [Option.guard, other]
    | some b =>
      have own : w.hasBuilding p pt = true := hasBuilding_iff.2 ⟨b, holding?_eq_some.1 held⟩
      simp [Option.guard, own]
  rw [holdings, List.map_filterMap, funext site, List.filterMap_eq_filter]
  rfl

theorem events_destroyBuildingsOf (w : World) (p : PlayerId) :
    (w.destroyBuildingsOf p).2.events.toList =
      w.events.toList ++ (w.holdings p).map Event.demolition := by
  have told (m : Point × Building) (held : m ∈ w.holdings p) :
      w.removal m.1 = [Event.demolition m] := by
    simp [removal, (mem_holdings.1 held).1, NodeObject.removal, Event.demolition]
  calc (w.destroyBuildingsOf p).2.events.toList
      = w.events.toList ++ (w.buildingsOf p).flatMap w.removal :=
        events_destroyAll (w.nodup_points.filter (w.hasBuilding p)) w
    _ = w.events.toList ++ (w.holdings p).flatMap fun m => w.removal m.1 := by
        rw [← map_fst_holdings, List.flatMap_map]
    _ = w.events.toList ++ (w.holdings p).map Event.demolition := by
        rw [List.flatMap_congr told, List.map_eq_flatMap]

/-- The answer counts the buildings that are gone, each of which is told of. -/
theorem destroyBuildingsOf_count (w : World) (p : PlayerId) :
    (w.destroyBuildingsOf p).1 = w.buildingCount p ∧
      (w.destroyBuildingsOf p).2.buildingCount p = 0 ∧
      (w.destroyBuildingsOf p).2.events.size = w.events.size + (w.destroyBuildingsOf p).1 := by
  refine ⟨rfl, ?_, ?_⟩
  · rw [buildingCount, List.length_eq_zero_iff, List.eq_nil_iff_forall_not_mem]
    intro pt
    rw [mem_buildingsOf, (w.clears_destroyBuildingsOf p).hasBuilding]
    simp
  · have told := congrArg List.length (w.events_destroyBuildingsOf p)
    rw [List.length_append, List.length_map] at told
    have listed : (w.holdings p).length = (w.destroyBuildingsOf p).1 := by
      rw [← List.length_map Prod.fst, map_fst_holdings, destroyBuildingsOf]
    rw [← Array.length_toList, told, listed, Array.length_toList]

theorem events_destroyBuildings {ps : List PlayerId} (once : ps.Nodup) (w : World) :
    (ps.foldl (fun w p => (w.destroyBuildingsOf p).2) w).events.toList =
      w.events.toList ++ (ps.flatMap w.holdings).map Event.demolition := by
  induction ps generalizing w with
  | nil => simp
  | cons p ps ih =>
    obtain ⟨fresh, once⟩ := List.nodup_cons.1 once
    -- The first player's loss leaves the others what they hold in the first world.
    have later : ps.flatMap (w.destroyBuildingsOf p).2.holdings = ps.flatMap w.holdings := by
      apply List.flatMap_congr
      intro q listed
      have other : decide (q = p) = false := by
        rw [decide_eq_false_iff_not]
        rintro rfl
        exact fresh listed
      exact (w.clears_destroyBuildingsOf p).holdings
        (points_congr (w.ground_destroyBuildingsOf p)) other
    rw [List.foldl_cons, ih once, events_destroyBuildingsOf, later, List.flatMap_cons,
      List.map_append, List.append_assoc]

/-- The buildings of some owners are cleared, and the events tell of each of them in its turn. -/
structure Razes (owners : PlayerId → Bool) (w w' : World) : Prop extends Clears owners w w' where
  events : ∃ razed : List (Point × Building),
    (∀ pt b, (pt, b) ∈ razed ↔ w.object? pt = some (.building b) ∧ owners b.owner = true) ∧
    razed.Pairwise RazedBefore ∧
    w'.events.toList = w.events.toList ++ razed.map Event.demolition

theorem razes_destroyBuildings (S : PlayerSet) (w : World) :
    Razes (fun p => p ∈ S) w (S.ids.foldl (fun w p => (w.destroyBuildingsOf p).2) w) where
  toClears := clears_destroyBuildings S.ids w
  events := by
    refine ⟨S.ids.flatMap w.holdings, fun pt b => ?_, pairwise_flatMap_holdings S.ascending w, ?_⟩
    · simp only [List.mem_flatMap, mem_holdings, decide_eq_true_eq]
      constructor
      · rintro ⟨p, member, stands, rfl⟩
        exact ⟨stands, member⟩
      · rintro ⟨stands, member⟩
        exact ⟨b.owner, member, stands, rfl⟩
    · refine events_destroyBuildings (S.ascending.imp fun {p q} before same => ?_) w
      rw [same, PlayerId.lt_iff] at before
      exact Nat.lt_irrefl _ before

end World

end CheatCodes
