import CheatCodes.Proofs.World.Ground
/-!
Buildings on the map and in the events. Every point is listed once, so a change of one node moves
the number of a player's buildings by that node alone. Clearing a node, and building on one that no
building stands on, tell the events of each building that comes or goes; building over another does
not. A surplus of buildings over what the events tell of therefore lasts.
-/
namespace CheatCodes

theorem countP_add_toNat_comm {α : Type} [DecidableEq α] {f g : α → Bool} {a : α} {l : List α}
    (once : l.Nodup) (listed : a ∈ l) (away : ∀ b ≠ a, f b = g b) :
    l.countP f + (g a).toNat = l.countP g + (f a).toNat := by
  have apart (h : α → Bool) : l.countP h = (l.erase a).countP h + (h a).toNat := by
    rw [(List.perm_cons_erase listed).countP_eq, List.countP_cons]
    cases h a <;> rfl
  have others : (l.erase a).countP f = (l.erase a).countP g := by
    apply List.countP_congr
    intro b member
    have other : b ≠ a := by
      rintro rfl
      exact once.not_mem_erase member
    rw [away b other]
  rw [apart f, apart g, others]
  omega

namespace World

theorem buildingCount_eq_countP (w : World) (p : PlayerId) :
    w.buildingCount p = w.points.countP (w.hasBuilding p) :=
  List.countP_eq_length_filter.symm

theorem buildingCount_of_one {w w' : World} {p : PlayerId} {pt : Point}
    (same : w'.ground = w.ground) (inside : w.contains pt = true)
    (away : ∀ qt ≠ pt, w'.hasBuilding p qt = w.hasBuilding p qt) :
    w'.buildingCount p + (w.hasBuilding p pt).toNat =
      w.buildingCount p + (w'.hasBuilding p pt).toNat := by
  rw [buildingCount_eq_countP, buildingCount_eq_countP, points_congr same]
  exact countP_add_toNat_comm w.nodup_points (mem_points.2 inside) away

end World

namespace Event

def creates (p : PlayerId) : Event → Bool
  | .buildingCreated _ _ owner => owner = p
  | _ => false

def destroys (p : PlayerId) : Event → Bool
  | .buildingDestroyed _ _ owner => owner = p
  | _ => false

end Event

namespace World

/-- The buildings of a player beyond those that the events tell of. -/
def surplus (p : PlayerId) (w : World) : Int :=
  w.buildingCount p + w.events.toList.countP (·.destroys p) - w.events.toList.countP (·.creates p)

theorem surplus_record (p : PlayerId) (w : World) (e : Event) :
    (w.record e).surplus p = w.surplus p + (e.destroys p).toNat - (e.creates p).toNat := by
  have count (f : Event → Bool) :
      (w.record e).events.toList.countP f = w.events.toList.countP f + (f e).toNat := by
    rw [record_events, Array.toList_push, List.countP_append, List.countP_singleton]
    cases f e <;> rfl
  have standing : (w.record e).buildingCount p = w.buildingCount p := rfl
  simp only [surplus, count, standing]
  omega

theorem surplus_notifyVisibility (p : PlayerId) (w : World) :
    w.notifyVisibility.surplus p = w.surplus p := by
  simp [notifyVisibility, surplus_record, Event.destroys, Event.creates]

theorem hasBuilding_eq_of_object? {w : World} {pt : Point} {object : NodeObject}
    (found : w.object? pt = some object) (p : PlayerId) :
    w.hasBuilding p pt = object.belongsTo p := by
  simp [hasBuilding, found]

theorem surplus_setObject {w : World} {pt : Point} {before : NodeObject}
    (found : w.object? pt = some before) (after : NodeObject) (p : PlayerId) :
    (w.setObject pt after).surplus p =
      w.surplus p + (after.belongsTo p).toNat - (before.belongsTo p).toNat := by
  have away (qt : Point) (apart : qt ≠ pt) :
      (w.setObject pt after).hasBuilding p qt = w.hasBuilding p qt := by
    rw [hasBuilding, object?_setObject, if_neg apart, hasBuilding]
  have moved := buildingCount_of_one (w.ground_setObject pt after) (contains_of_object? found) away
  have now : (w.setObject pt after).object? pt = some after := by
    rw [object?_setObject, if_pos rfl, found]
    rfl
  rw [hasBuilding_eq_of_object? found, hasBuilding_eq_of_object? now] at moved
  have silent : (w.setObject pt after).events = w.events := editNode_events ..
  simp only [surplus, silent]
  omega

theorem surplus_editPlayer (p q : PlayerId) (f : Player → Player) (w : World) :
    (w.editPlayer q f).surplus p = w.surplus p := rfl

theorem surplus_destroyObject (p : PlayerId) (w : World) (pt : Point) :
    (w.destroyObject pt).surplus p = w.surplus p := by
  unfold destroyObject
  split
  · rfl
  · rfl
  · rename_i found
    rw [surplus_record, surplus_setObject found]
    simp [NodeObject.belongsTo, Event.destroys, Event.creates]
  · rename_i b found
    rw [surplus_record, surplus_editPlayer, surplus_setObject found]
    simp [NodeObject.belongsTo, Event.destroys, Event.creates]

theorem surplus_createBuilding (p : PlayerId) {w : World} {pt : Point}
    (cleared : w.object? pt = some .nothing) (b : Building) :
    (w.createBuilding pt b).surplus p = w.surplus p := by
  have built : (w.setObject pt (.building b)).surplus p =
      w.surplus p + (decide (b.owner = p)).toNat := by
    rw [surplus_setObject cleared]
    simp [NodeObject.belongsTo]
  have told (e : World) (same : e.surplus p = (w.setObject pt (.building b)).surplus p) :
      (e.record (.buildingCreated pt b.kind b.owner)).surplus p = w.surplus p := by
    rw [surplus_record, same, built]
    simp [Event.destroys, Event.creates]
  rw [createBuilding, if_pos (contains_of_object? cleared)]
  split
  · exact told _ (surplus_editPlayer ..)
  · exact told _ rfl

example :
    let w := (World.empty 1 1).createBuilding ⟨0, 0⟩ ⟨.woodcutter, ⟨0⟩, .romans, false⟩
    w.surplus ⟨0⟩ = 0 ∧
      (w.createBuilding ⟨0, 0⟩ ⟨.quarry, ⟨0⟩, .romans, false⟩).surplus ⟨0⟩ = -1 := by
  decide

theorem surplus_replace (p : PlayerId) {w : World} {pt : Point} (node : (w.object? pt).isSome)
    (b : Building) : (w.replace pt b).surplus p = w.surplus p := by
  have cleared : (w.destroyObject pt).object? pt = some .nothing := by
    obtain ⟨object, found⟩ := Option.isSome_iff_exists.1 node
    rw [object?_destroyObject, if_pos rfl, found]
    rfl
  rw [replace, surplus_createBuilding p cleared, surplus_destroyObject]

theorem surplus_destroyBuildingsOf (p : PlayerId) (w : World) (q : PlayerId) :
    (w.destroyBuildingsOf q).2.surplus p = w.surplus p :=
  destroyBuildingsOf_keeps (surplus_destroyObject p) w q

end World

end CheatCodes
