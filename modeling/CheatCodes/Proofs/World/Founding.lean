import CheatCodes.Proofs.World.Headquarters
import CheatCodes.Proofs.World.Territory
/-!
The founding of a headquarters. The claim wraps around the edges of the map and the building does
not; so a founding is whole, done in full or not at all, for a site on the map and for a player
without a slot. For any other site the land is claimed all the same and nothing is built on it.
-/
namespace CheatCodes.World

def Unchanged (w w' : World) : Prop :=
  w'.nodes = w.nodes ∧ w'.players = w.players ∧ w'.events = w.events

instance (w w' : World) : Decidable (w.Unchanged w') :=
  inferInstanceAs (Decidable (_ ∧ _))

/-- In the second world the player has its headquarters on land of its own, and the events tell of
the claim and of the building. -/
structure Founded (p : PlayerId) (pt : Point) (w w' : World) : Prop where
  stands : w'.HasHq p pt
  owned : w'.owner? pt = some p
  slot : (w'.hq? p).isSome
  told : w'.events.toList =
    w.events.toList ++ [.territoryClaimed pt hqRadius p, .buildingCreated pt .headquarters p]

variable {w : World} {p : PlayerId} {pt : Point}

/-! The claim and the building. -/

theorem inSquare_center (inside : w.contains pt = true) (radius : UInt16) :
    w.InSquare pt radius pt := by
  obtain ⟨column, row⟩ := contains_iff.1 inside
  exact ⟨reaches_of_near column (by omega) (by omega), reaches_of_near row (by omega) (by omega)⟩

@[simp] theorem object?_claimTerritory (w : World) (center : Point) (radius : UInt16)
    (owner : PlayerId) (pt : Point) :
    (w.claimTerritory center radius owner).object? pt = w.object? pt := by
  rw [object?, node?_claimTerritory, object?]
  split
  · rw [Option.map_map]
    rfl
  · rfl

theorem events_claimTerritory (w : World) (center : Point) (radius : UInt16) (owner : PlayerId) :
    (w.claimTerritory center radius owner).events.toList =
      w.events.toList ++ [.territoryClaimed center radius owner] := by
  rw [claimTerritory, record_events, Array.toList_push,
    (claimed_frame (w.square center radius) owner w).2.2.2]

theorem object?_foundHeadquarters {nation : Nation} (known : w.nation? p = some nation)
    (pt qt : Point) :
    (w.foundHeadquarters p pt).object? qt =
      if qt = pt then (w.object? pt).map fun _ => .building ⟨.headquarters, p, nation, false⟩
      else w.object? qt := by
  rw [foundHeadquarters_of_known known, object?_createBuilding, object?_claimTerritory,
    object?_claimTerritory]

theorem claim_prefix_events {nation : Nation} (known : w.nation? p = some nation) (pt : Point) :
    w.events.toList ++ [.territoryClaimed pt hqRadius p] <+:
      (w.foundHeadquarters p pt).events.toList := by
  rw [foundHeadquarters_of_known known, ← events_claimTerritory]
  by_cases inside : (w.claimTerritory pt hqRadius p).contains pt = true
  · rw [events_createBuilding inside]
    exact List.prefix_append ..
  · rw [createBuilding, if_neg inside]

/-! Sites on the map and beside it. -/

theorem founded_of_node {nation : Nation} (known : w.nation? p = some nation) {n : Node}
    (here : w.node? pt = some n) : Founded p pt w (w.foundHeadquarters p pt) := by
  have inside : w.contains pt = true := contains_of_node? here
  have object : w.object? pt = some n.object := by rw [object?, here]; rfl
  constructor
  · refine ⟨⟨.headquarters, p, nation, false⟩, ?_, rfl, rfl⟩
    rw [object?_foundHeadquarters known, if_pos rfl, object]
    rfl
  · rw [foundHeadquarters_of_known known, owner?_congr (ground_createBuilding ..), owner?,
      node?_claimTerritory, if_pos (inSquare_center inside hqRadius), here]
    rfl
  · rw [hq?_foundHeadquarters known inside, if_pos rfl]
    rfl
  · have still : (w.claimTerritory pt hqRadius p).contains pt = true := by
      rw [contains_claimTerritory]
      exact inside
    rw [foundHeadquarters_of_known known, events_createBuilding still, events_claimTerritory,
      List.append_assoc]
    rfl

theorem foundHeadquarters_of_unknown (unknown : w.player? p = none) (pt : Point) :
    w.foundHeadquarters p pt = w := by
  have none : w.nation? p = none := by rw [nation?, unknown]; rfl
  rw [foundHeadquarters, none]

theorem not_unchanged_of_known {nation : Nation} (known : w.nation? p = some nation) (pt : Point) :
    ¬ w.Unchanged (w.foundHeadquarters p pt) := by
  rintro ⟨_, _, silent⟩
  have longer := (claim_prefix_events known pt).length_le
  rw [silent, List.length_append, List.length_singleton] at longer
  exact Nat.not_succ_le_self _ longer

theorem not_hasHq_of_beside {nation : Nation} (known : w.nation? p = some nation)
    (beside : w.node? pt = none) : ¬ (w.foundHeadquarters p pt).HasHq p pt := by
  rintro ⟨b, stands, _⟩
  have none : w.object? pt = none := by rw [object?, beside]; rfl
  rw [object?_foundHeadquarters known, if_pos rfl, none] at stands
  cases stands

/-- A founding is done in full or leaves everything as it was, exactly if there is no such player or
the site is a node of the map. -/
theorem foundHeadquarters_whole_iff (w : World) (p : PlayerId) (pt : Point) :
    (w.Unchanged (w.foundHeadquarters p pt) ∨ Founded p pt w (w.foundHeadquarters p pt)) ↔
      w.player? p = none ∨ (w.node? pt).isSome := by
  cases found : w.player? p with
  | none =>
    rw [foundHeadquarters_of_unknown found]
    exact iff_of_true (.inl ⟨rfl, rfl, rfl⟩) (.inl rfl)
  | some player =>
    have known : w.nation? p = some player.nation := by rw [nation?, found]; rfl
    cases here : w.node? pt with
    | some n => exact iff_of_true (.inr (founded_of_node known here)) (.inr rfl)
    | none =>
      refine iff_of_false ?_ (by simp)
      rintro (same | whole)
      · exact not_unchanged_of_known known pt same
      · exact not_hasHq_of_beside known here whole.stands

def hermitage : World :=
  ((empty 2 2).addPlayer .romans .human).2

/-- A site beside the map gets its player all the land and no headquarters. -/
theorem foundHeadquarters_beside_map :
    let w := hermitage.foundHeadquarters ⟨0⟩ ⟨2, 0⟩
    hermitage.contains ⟨2, 0⟩ = false ∧ hermitage.owner? ⟨0, 0⟩ = none ∧
      w.owner? ⟨0, 0⟩ = some ⟨0⟩ ∧ w.hq? ⟨0⟩ = none ∧ w.buildingsOf ⟨0⟩ = [] ∧
      w.events = #[.territoryClaimed ⟨2, 0⟩ hqRadius ⟨0⟩] ∧
      ¬ (hermitage.Unchanged w ∨ Founded ⟨0⟩ ⟨2, 0⟩ hermitage w) := by
  intro w
  have empty : w.hq? ⟨0⟩ = none := by decide +kernel
  refine ⟨by decide, by decide, by decide +kernel, empty, by decide +kernel, by decide +kernel, ?_⟩
  rintro (same | whole)
  · exact absurd same (by decide +kernel)
  · have slot := whole.slot
    rw [empty] at slot
    cases slot

end CheatCodes.World
