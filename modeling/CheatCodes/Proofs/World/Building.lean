import CheatCodes.World.Settlement
import CheatCodes.World.View
/-!
What clearing nodes and building on them do to the objects on the map and to the headquarters
slots. Clearing empties its own nodes and only slots that point at a cleared building of their
player; a building replaces what stood there and fills at most the slot of its owner. Neither
changes who the players are.
-/
namespace CheatCodes.World

def hasBuilding (w : World) (p : PlayerId) (pt : Point) : Bool :=
  (w.object? pt).any (·.belongsTo p)

theorem hasBuilding_iff {w : World} {p : PlayerId} {pt : Point} :
    w.hasBuilding p pt = true ↔ ∃ b, w.object? pt = some (.building b) ∧ b.owner = p := by
  unfold hasBuilding
  cases w.object? pt with
  | none => simp
  | some object => cases object <;> simp [NodeObject.belongsTo]

theorem mem_buildingsOf {w : World} {p : PlayerId} {pt : Point} :
    pt ∈ w.buildingsOf p ↔ w.hasBuilding p pt = true := by
  rw [buildingsOf, List.mem_filter, mem_points]
  refine ⟨fun h => h.2, fun h => ⟨?_, h⟩⟩
  obtain ⟨b, stands, _⟩ := hasBuilding_iff.1 h
  exact contains_of_object? stands

/-! One node. -/

theorem object?_destroyObject (w : World) (pt qt : Point) :
    (w.destroyObject pt).object? qt =
      if qt = pt then (w.object? pt).map fun _ => .nothing else w.object? qt := by
  by_cases here : qt = pt
  · subst here
    unfold destroyObject
    split <;> rename_i found <;> simp [object?_setObject, found]
  · unfold destroyObject
    split <;> simp [object?_setObject, here]

theorem hasBuilding_destroyObject (w : World) (pt : Point) (p : PlayerId) (qt : Point) :
    (w.destroyObject pt).hasBuilding p qt = (qt ≠ pt && w.hasBuilding p qt) := by
  unfold hasBuilding
  rw [object?_destroyObject]
  by_cases here : qt = pt
  · subst here
    cases w.object? qt <;> simp [NodeObject.belongsTo]
  · simp [here]

theorem hq?_destroyObject_eq_some {w : World} {pt qt : Point} {p : PlayerId} :
    (w.destroyObject pt).hq? p = some qt ↔
      w.hq? p = some qt ∧ ¬ (qt = pt ∧ w.hasBuilding p qt = true) := by
  have kept (free : w.hasBuilding p pt = false) :
      w.hq? p = some qt ↔ w.hq? p = some qt ∧ ¬ (qt = pt ∧ w.hasBuilding p qt = true) := by
    refine (and_iff_left ?_).symm
    rintro ⟨rfl, stands⟩
    rw [free] at stands
    cases stands
  unfold destroyObject
  split
  · exact kept (by simp [hasBuilding, *])
  · exact kept (by simp [hasBuilding, NodeObject.belongsTo, *])
  · rw [hq?_record, hq?_setObject]
    exact kept (by simp [hasBuilding, NodeObject.belongsTo, *])
  · rename_i b found
    rw [hq?_record, hq?_loseHq, hq?_setObject]
    by_cases own : b.owner = p
    · subst own
      have stands : w.hasBuilding b.owner pt = true := hasBuilding_iff.2 ⟨b, found, rfl⟩
      by_cases slot : w.hq? b.owner = some pt
      · rw [if_pos ⟨rfl, slot⟩, slot]
        refine iff_of_false (by simp) fun h => h.2 ?_
        have here : pt = qt := Option.some.inj h.1
        rw [← here]
        exact ⟨rfl, stands⟩
      · rw [if_neg (fun both => slot both.2)]
        refine (and_iff_left_of_imp fun h both => slot ?_).symm
        rw [h, both.1]
    · have free : w.hasBuilding p pt = false := by
        simp [hasBuilding, NodeObject.belongsTo, found, own]
      rw [if_neg (fun both => own both.1.symm)]
      exact kept free

theorem object?_createBuilding (w : World) (pt qt : Point) (b : Building) :
    (w.createBuilding pt b).object? qt =
      if qt = pt then (w.object? pt).map fun _ => .building b else w.object? qt := by
  unfold createBuilding
  split
  · split <;> simp [object?_setObject]
  · rename_i outside
    have none : w.object? pt = none := by
      cases found : w.object? pt with
      | none => rfl
      | some object => exact absurd (contains_of_object? found) outside
    by_cases here : qt = pt <;> simp [here, none]

theorem hq?_createBuilding {w : World} {pt : Point} (inside : w.contains pt = true)
    (b : Building) (p : PlayerId) :
    (w.createBuilding pt b).hq? p =
      if b.kind = .headquarters ∧ p = b.owner ∧ (w.player? p).isSome then
        some ((w.hq? p).getD pt)
      else w.hq? p := by
  unfold createBuilding
  rw [if_pos inside]
  by_cases hq : b.kind = .headquarters
  · have known : (w.setObject pt (.building b)).player? p = w.player? p := player?_editNode ..
    simp [hq, hq?_gainHq, known]
  · simp [hq]

theorem events_createBuilding {w : World} {pt : Point} (inside : w.contains pt = true)
    (b : Building) : (w.createBuilding pt b).events.toList =
      w.events.toList ++ [.buildingCreated pt b.kind b.owner] := by
  have silent : (w.setObject pt (.building b)).events = w.events := editNode_events ..
  rw [createBuilding, if_pos inside]
  split
  · simp [silent]
  · simp [silent]

def replace (w : World) (pt : Point) (b : Building) : World :=
  (w.destroyObject pt).createBuilding pt b

theorem object?_destroyObject_isSome {w : World} {pt : Point} (node : (w.object? pt).isSome) :
    ((w.destroyObject pt).object? pt).isSome := by
  rw [object?_destroyObject, if_pos rfl, Option.isSome_map]
  exact node

/-! Many nodes. -/

theorem object?_destroyAll (pts : List Point) (w : World) (qt : Point) :
    (pts.foldl destroyObject w).object? qt =
      if qt ∈ pts then (w.object? qt).map fun _ => .nothing else w.object? qt := by
  induction pts generalizing w with
  | nil => simp
  | cons pt pts ih =>
    rw [List.foldl_cons, ih, object?_destroyObject]
    by_cases here : qt = pt
    · subst here
      by_cases again : qt ∈ pts <;> simp [again, Function.comp_def]
    · simp [here]

theorem hq?_destroyAll_eq_some {pts : List Point} {w : World} {p : PlayerId} {qt : Point} :
    (pts.foldl destroyObject w).hq? p = some qt ↔
      w.hq? p = some qt ∧ ¬ (qt ∈ pts ∧ w.hasBuilding p qt = true) := by
  induction pts generalizing w with
  | nil => simp
  | cons pt pts ih =>
    rw [List.foldl_cons, ih, hq?_destroyObject_eq_some, hasBuilding_destroyObject]
    by_cases here : qt = pt
    · simp [here]
    · simp [here]

theorem destroyBuildingsOf_keeps {α : Type} {f : World → α}
    (one : ∀ w pt, f (w.destroyObject pt) = f w) (w : World) (p : PlayerId) :
    f (w.destroyBuildingsOf p).2 = f w := by
  simp only [destroyBuildingsOf]
  induction w.buildingsOf p generalizing w with
  | nil => rfl
  | cons pt pts ih => exact (ih (w.destroyObject pt)).trans (one w pt)

theorem object?_destroyBuildingsOf (w : World) (p : PlayerId) (qt : Point) :
    (w.destroyBuildingsOf p).2.object? qt =
      if w.hasBuilding p qt then some .nothing else w.object? qt := by
  rw [destroyBuildingsOf, object?_destroyAll]
  by_cases own : w.hasBuilding p qt = true
  · obtain ⟨b, stands, _⟩ := hasBuilding_iff.1 own
    rw [if_pos (mem_buildingsOf.2 own), if_pos own, stands]
    rfl
  · rw [if_neg (mt mem_buildingsOf.1 own), if_neg own]

theorem hq?_destroyBuildingsOf_eq_some {w : World} {p q : PlayerId} {qt : Point} :
    (w.destroyBuildingsOf p).2.hq? q = some qt ↔
      w.hq? q = some qt ∧ ¬ (q = p ∧ w.hasBuilding q qt = true) := by
  rw [destroyBuildingsOf, hq?_destroyAll_eq_some, mem_buildingsOf]
  refine and_congr_right fun _ => not_congr ?_
  constructor
  · rintro ⟨own, stands⟩
    obtain ⟨b, found, rfl⟩ := hasBuilding_iff.1 own
    obtain ⟨b', found', rfl⟩ := hasBuilding_iff.1 stands
    rw [found] at found'
    cases found'
    exact ⟨rfl, stands⟩
  · rintro ⟨rfl, stands⟩
    exact ⟨stands, stands⟩

/-! The players. -/

/-- Who holds the slots, apart from where their headquarters are. -/
def roster (w : World) : Array (PlayerId × Nation × Control) :=
  w.players.map fun p => (p.id, p.nation, p.control)

theorem roster_editPlayer {w : World} {p : PlayerId} {f : Player → Player}
    (h : ∀ q, (f q).id = q.id ∧ (f q).nation = q.nation ∧ (f q).control = q.control) :
    (w.editPlayer p f).roster = w.roster := by
  refine Array.ext (by simp [roster, editPlayer]) fun i _ _ => ?_
  simp only [roster, editPlayer, Array.getElem_map, Array.getElem_modify]
  split
  · rw [(h _).1, (h _).2.1, (h _).2.2]
  · rfl

theorem roster_loseHq (w : World) (p : PlayerId) (pt : Point) :
    (w.editPlayer p (·.loseHq pt)).roster = w.roster :=
  roster_editPlayer fun q => by
    unfold Player.loseHq
    split <;> exact ⟨rfl, rfl, rfl⟩

theorem roster_gainHq (w : World) (p : PlayerId) (pt : Point) :
    (w.editPlayer p (·.gainHq pt)).roster = w.roster :=
  roster_editPlayer fun _ => ⟨rfl, rfl, rfl⟩

theorem roster_setObject (w : World) (pt : Point) (object : NodeObject) :
    (w.setObject pt object).roster = w.roster := by
  rw [roster, setObject, editNode_players, roster]

theorem roster_destroyObject (w : World) (pt : Point) : (w.destroyObject pt).roster = w.roster := by
  unfold destroyObject
  split
  · rfl
  · rfl
  · exact roster_setObject ..
  · exact (roster_loseHq ..).trans (roster_setObject ..)

theorem roster_createBuilding (w : World) (pt : Point) (b : Building) :
    (w.createBuilding pt b).roster = w.roster := by
  unfold createBuilding
  split
  · split
    · exact (roster_gainHq ..).trans (roster_setObject ..)
    · exact roster_setObject ..
  · rfl

theorem roster_replace (w : World) (pt : Point) (b : Building) :
    (w.replace pt b).roster = w.roster :=
  (roster_createBuilding ..).trans (roster_destroyObject ..)

theorem roster_destroyBuildingsOf (w : World) (p : PlayerId) :
    (w.destroyBuildingsOf p).2.roster = w.roster :=
  destroyBuildingsOf_keeps roster_destroyObject w p

theorem players_size_congr {w w' : World} (h : w'.roster = w.roster) :
    w'.players.size = w.players.size := by
  simpa [roster] using congrArg Array.size h

theorem player?_isSome_congr {w w' : World} (h : w'.roster = w.roster) (p : PlayerId) :
    (w'.player? p).isSome = (w.player? p).isSome := by
  rw [Bool.eq_iff_iff, player?, player?, isSome_getElem?, isSome_getElem?, players_size_congr h]

end CheatCodes.World
