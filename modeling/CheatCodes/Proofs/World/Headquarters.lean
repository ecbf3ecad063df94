import CheatCodes.Proofs.World.Building
import CheatCodes.Summary
/-!
Headquarters and the slots that point at them. A slot is sound if the headquarters that it points
at stands, and complete if it points at one whenever its player has one. Every change keeps slots
sound; a slot stays complete until the one headquarters that it points at is replaced by that of
another player while its own player has more.
-/
namespace CheatCodes.World

def HasHq (w : World) (p : PlayerId) (pt : Point) : Prop :=
  ∃ b, w.object? pt = some (.building b) ∧ b.kind = .headquarters ∧ b.owner = p

def SlotSound (w : World) (p : PlayerId) : Prop :=
  ∀ pt, w.hq? p = some pt → w.HasHq p pt

def SlotComplete (w : World) (p : PlayerId) : Prop :=
  ∀ pt, w.HasHq p pt → ∃ qt, w.hq? p = some qt ∧ w.HasHq p qt

theorem HasHq.hasBuilding {w : World} {p : PlayerId} {pt : Point} (h : w.HasHq p pt) :
    w.hasBuilding p pt = true := by
  obtain ⟨b, stands, _, owner⟩ := h
  exact hasBuilding_iff.2 ⟨b, stands, owner⟩

theorem SlotSound.isTent {w : World} {p : PlayerId} {pt : Point} (h : w.SlotSound p)
    (slot : w.hq? p = some pt) :
    ∃ b, w.object? pt = some (.building b) ∧ b.kind = .headquarters ∧ b.owner = p ∧
      w.hqIsTent p = b.isTent := by
  obtain ⟨b, stands, kind, owner⟩ := h pt slot
  refine ⟨b, stands, kind, owner, ?_⟩
  simp [hqIsTent, slot, stands, NodeObject.building?]

theorem hqIsTent_of_empty {w : World} {p : PlayerId} (h : w.hq? p = none) :
    w.hqIsTent p = false := by
  simp [hqIsTent, h]

/-- Every player's id is its place among the players, as they join. -/
def Numbered (w : World) : Prop :=
  ∀ i (h : i < w.players.size), w.players[i].id.index = i

theorem numbered_empty (width height : UInt16) : (empty width height).Numbered :=
  fun i inside => absurd inside (Nat.not_lt_zero i)

theorem Numbered.addPlayer {w : World} (h : w.Numbered) (nation : Nation) (control : Control) :
    (w.addPlayer nation control).2.Numbered := by
  unfold World.addPlayer
  split
  · rename_i id fresh
    have next : id.index = w.players.size := by
      unfold PlayerId.ofIndex? at fresh
      split at fresh
      · rename_i few
        cases fresh
        simp [PlayerId.index, Nat.mod_eq_of_lt few]
      · cases fresh
    intro i inside
    by_cases before : i < w.players.size
    · rw [Array.getElem_push_lt before]
      exact h i before
    · have last : i = w.players.size := by
        rw [Array.size_push] at inside
        omega
      subst last
      rw [Array.getElem_push_eq]
      exact next
  · exact h

theorem Numbered.congr {w w' : World} (h : w.Numbered) (same : w'.roster = w.roster) :
    w'.Numbered := by
  intro i inside
  have place (u : World) (h : i < u.players.size) :
      u.roster[i]? = some (u.players[i].id, u.players[i].nation, u.players[i].control) := by
    simp [roster, h]
  have size : w'.players.size = w.players.size := players_size_congr same
  have entry := place w' inside
  rw [same, place w (size ▸ inside)] at entry
  have id : w.players[i].id = w'.players[i].id := congrArg Prod.fst (Option.some.inj entry)
  rw [← id]
  exact h i (size ▸ inside)

theorem one_le_buildings {w : World} (numbered : w.Numbered) (sound : ∀ p, w.SlotSound p)
    {summary : PlayerSummary} (listed : summary ∈ w.playerSummaries)
    (reported : summary.hasHq = true) : 1 ≤ summary.buildings := by
  obtain ⟨player, member, rfl⟩ := List.mem_map.1 listed
  obtain ⟨i, inside, found⟩ := Array.getElem_of_mem (Array.mem_toList_iff.1 member)
  obtain ⟨pt, slot⟩ := Option.isSome_iff_exists.1 reported
  have place : player.id.index = i := by
    rw [← found]
    exact numbered i inside
  have known : w.player? player.id = some player := by
    rw [player?, place, Array.getElem?_eq_getElem inside, found]
  have filled : w.hq? player.id = some pt := by
    rw [hq?, known]
    exact slot
  have built : pt ∈ w.buildingsOf player.id :=
    mem_buildingsOf.2 (sound player.id pt filled).hasBuilding
  exact List.length_pos_of_mem built

/-! Which headquarters stand after a change. -/

theorem hasHq_destroyObject {w : World} {pt qt : Point} {p : PlayerId} :
    (w.destroyObject pt).HasHq p qt ↔ qt ≠ pt ∧ w.HasHq p qt := by
  unfold HasHq
  rw [object?_destroyObject]
  by_cases here : qt = pt
  · subst here
    simp
  · simp [here]

theorem hasHq_destroyBuildingsOf {w : World} {p q : PlayerId} {qt : Point} :
    (w.destroyBuildingsOf p).2.HasHq q qt ↔ q ≠ p ∧ w.HasHq q qt := by
  unfold HasHq
  rw [object?_destroyBuildingsOf]
  by_cases own : w.hasBuilding p qt = true
  · obtain ⟨b, stands, owner⟩ := hasBuilding_iff.1 own
    rw [if_pos own, stands]
    constructor
    · rintro ⟨_, h, _⟩
      cases h
    · rintro ⟨other, b', h, _, owner'⟩
      cases h
      exact absurd (owner'.symm.trans owner) other
  · rw [if_neg own]
    refine (and_iff_right_of_imp ?_).symm
    rintro ⟨b, stands, _, owner⟩ rfl
    exact own (hasBuilding_iff.2 ⟨b, stands, owner⟩)

theorem hasHq_createBuilding {w : World} {pt qt : Point} {b : Building} {p : PlayerId}
    (node : (w.object? pt).isSome) :
    (w.createBuilding pt b).HasHq p qt ↔
      if qt = pt then b.kind = .headquarters ∧ b.owner = p else w.HasHq p qt := by
  unfold HasHq
  rw [object?_createBuilding]
  obtain ⟨object, found⟩ := Option.isSome_iff_exists.1 node
  by_cases here : qt = pt
  · simp [here, found]
  · simp [here]

/-! Sound slots. -/

theorem SlotSound.destroyObject {w : World} {p : PlayerId} (h : w.SlotSound p) (pt : Point) :
    (w.destroyObject pt).SlotSound p := by
  intro qt slot
  obtain ⟨before, spared⟩ := hq?_destroyObject_eq_some.1 slot
  have stands : w.HasHq p qt := h qt before
  exact hasHq_destroyObject.2 ⟨fun here => spared ⟨here, stands.hasBuilding⟩, stands⟩

theorem SlotSound.destroyBuildingsOf {w : World} {p : PlayerId} (h : w.SlotSound p)
    (q : PlayerId) : (w.destroyBuildingsOf q).2.SlotSound p := by
  intro pt slot
  obtain ⟨before, spared⟩ := hq?_destroyBuildingsOf_eq_some.1 slot
  have stands : w.HasHq p pt := h pt before
  exact hasHq_destroyBuildingsOf.2 ⟨fun same => spared ⟨same, stands.hasBuilding⟩, stands⟩

theorem SlotSound.createBuilding {w : World} {p : PlayerId} {pt : Point} {b : Building}
    (h : w.SlotSound p) (node : (w.object? pt).isSome) (free : ¬ w.HasHq p pt) :
    (w.createBuilding pt b).SlotSound p := by
  obtain ⟨object, found⟩ := Option.isSome_iff_exists.1 node
  have kept {qt : Point} (slot : w.hq? p = some qt) : (w.createBuilding pt b).HasHq p qt := by
    have stands := h qt slot
    have apart : qt ≠ pt := by
      rintro rfl
      exact free stands
    rw [hasHq_createBuilding node, if_neg apart]
    exact stands
  intro qt slot
  rw [hq?_createBuilding (contains_of_object? found)] at slot
  split at slot
  · rename_i gains
    cases before : w.hq? p with
    | none =>
      have here : pt = qt := by simpa [before] using slot
      rw [hasHq_createBuilding node, if_pos here.symm]
      exact ⟨gains.1, gains.2.1.symm⟩
    | some rt =>
      have same : rt = qt := by simpa [before] using slot
      exact kept (before.trans (congrArg some same))
  · exact kept slot

theorem hasHq_replace {w : World} {pt qt : Point} {b : Building} {p : PlayerId}
    (node : (w.object? pt).isSome) :
    (w.replace pt b).HasHq p qt ↔
      if qt = pt then b.kind = .headquarters ∧ b.owner = p else w.HasHq p qt := by
  rw [replace, hasHq_createBuilding (object?_destroyObject_isSome node), hasHq_destroyObject]
  by_cases here : qt = pt
  · simp [here]
  · simp [here]

theorem SlotSound.replace {w : World} {p : PlayerId} {pt : Point} {b : Building}
    (h : w.SlotSound p) (node : (w.object? pt).isSome) : (w.replace pt b).SlotSound p :=
  (h.destroyObject pt).createBuilding (object?_destroyObject_isSome node) fun stands =>
    (hasHq_destroyObject.1 stands).1 rfl

/-! Complete slots. -/

theorem SlotComplete.destroyBuildingsOf {w : World} {p : PlayerId} (h : w.SlotComplete p)
    (q : PlayerId) : (w.destroyBuildingsOf q).2.SlotComplete p := by
  intro pt stands
  obtain ⟨other, before⟩ := hasHq_destroyBuildingsOf.1 stands
  obtain ⟨qt, slot, pointed⟩ := h pt before
  refine ⟨qt, hq?_destroyBuildingsOf_eq_some.2 ⟨slot, fun both => other both.1⟩, ?_⟩
  exact hasHq_destroyBuildingsOf.2 ⟨other, pointed⟩

theorem hq?_replace {w : World} {pt : Point} {b : Building} (node : (w.object? pt).isSome)
    (kind : b.kind = .headquarters) (known : (w.player? b.owner).isSome) (q : PlayerId) :
    (w.replace pt b).hq? q =
      if q = b.owner then some (((w.destroyObject pt).hq? q).getD pt)
      else (w.destroyObject pt).hq? q := by
  obtain ⟨object, found⟩ := Option.isSome_iff_exists.1 (object?_destroyObject_isSome node)
  rw [replace, hq?_createBuilding (contains_of_object? found),
    player?_isSome_congr (roster_destroyObject w pt)]
  by_cases own : q = b.owner
  · rw [if_pos own, if_pos ⟨kind, own, own ▸ known⟩]
  · rw [if_neg own, if_neg (fun all => own all.2.1)]

theorem slotComplete_replace_iff {w : World} {q : PlayerId} {pt : Point} {b : Building}
    (sound : w.SlotSound q) (complete : w.SlotComplete q) (node : (w.object? pt).isSome)
    (kind : b.kind = .headquarters) (known : (w.player? b.owner).isSome) :
    (w.replace pt b).SlotComplete q ↔
      ¬ (b.owner ≠ q ∧ w.hq? q = some pt ∧ ∃ other, other ≠ pt ∧ w.HasHq q other) := by
  have after : (w.replace pt b).SlotSound q := sound.replace node
  have slot := hq?_replace node kind known q
  by_cases own : q = b.owner
  · rw [if_pos own] at slot
    refine iff_of_true (fun _ _ => ⟨_, slot, after _ slot⟩) fun evicted => evicted.1 own.symm
  · rw [if_neg own] at slot
    constructor
    · rintro kept ⟨_, pointed, other, apart, stands⟩
      have still : (w.replace pt b).HasHq q other := by
        rw [hasHq_replace node, if_neg apart]
        exact stands
      obtain ⟨rt, filled, _⟩ := kept other still
      rw [slot, hq?_destroyObject_eq_some, pointed] at filled
      have here : rt = pt := (Option.some.inj filled.1).symm
      rw [here] at filled
      exact filled.2 ⟨rfl, (sound pt pointed).hasBuilding⟩
    · intro spared qt stands
      rw [hasHq_replace node] at stands
      have apart : qt ≠ pt := by
        intro here
        rw [if_pos here] at stands
        exact own stands.2.symm
      rw [if_neg apart] at stands
      obtain ⟨rt, pointed, _⟩ := complete qt stands
      have elsewhere : rt ≠ pt := by
        rintro rfl
        exact spared ⟨Ne.symm own, pointed, qt, apart, stands⟩
      have filled : (w.replace pt b).hq? q = some rt := by
        rw [slot, hq?_destroyObject_eq_some]
        exact ⟨pointed, fun both => elsewhere both.1⟩
      exact ⟨rt, filled, after rt filled⟩

end CheatCodes.World
