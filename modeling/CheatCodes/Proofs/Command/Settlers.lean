import CheatCodes.Proofs.Command.Layout
import CheatCodes.Proofs.World.Founding
/-!
The settlers of the reference world. One after another they take a seat and build a headquarters at
their own site, and nothing else; no site lies in the square of another settler, so each keeps the
node below its headquarters, whoever claims land afterwards.
-/
namespace CheatCodes.Reference
open World (hqRadius Reaches)

def control (humans i : Nat) : Control :=
  if i < humans then .human else .ai

def home (i : Nat) : Building :=
  ⟨.headquarters, seat i, nation i, false⟩

theorem seat_index (p : PlayerId) : seat p.index = p := by
  have small := p.index_lt
  exact PlayerId.ext_index (UInt8.toNat_ofNat_of_lt' small)

/-! Sites and squares. -/

theorem lane_eq_of_reaches (lanes : Nat) {size a b : UInt16} {stride start i j : Nat}
    (ha : a.toNat = i * stride + start) (hb : b.toNat = j * stride + start) (hi : i < lanes)
    (hj : j < lanes) (wide : 4 < stride) (fits : lanes * stride ≤ size.toNat)
    (reached : Reaches size hqRadius a b) : i = j := by
  have four : hqRadius.toNat = 4 := rfl
  rcases Nat.lt_trichotomy i j with before | same | after
  · have := lanes_apart wide fits before hj
    exact absurd reached (World.not_reaches_of_far (by omega) (by omega)).1
  · exact same
  · have := lanes_apart wide fits after hi
    exact absurd reached (World.not_reaches_of_far (by omega) (by omega)).2

theorem land_site_iff {size : UInt16} (wide : 32 ≤ size.toNat) {i j : Nat} (hi : i < 8)
    (hj : j < 8) : Land size j (site size i) ↔ i = j := by
  constructor
  · rintro ⟨column, row⟩
    have columns : j % 4 = i % 4 :=
      lane_eq_of_reaches 4 (toNat_site_x j) (toNat_site_x i) (by omega) (by omega) (by omega)
        (by omega) column
    have rows : j / 4 = i / 4 :=
      lane_eq_of_reaches 2 (toNat_site_y hj) (toNat_site_y hi) (by omega) (by omega) (by omega)
        (by omega) row
    omega
  · rintro rfl
    obtain ⟨column, row⟩ := site_inside hi wide
    exact ⟨World.reaches_of_near column (by omega) (by omega),
      World.reaches_of_near row (by omega) (by omega)⟩

theorem site_injective {size : UInt16} (wide : 32 ≤ size.toNat) {i j : Nat} (hi : i < 8)
    (hj : j < 8) (same : site size i = site size j) : i = j :=
  (land_site_iff wide hi hj).1 (same ▸ (land_site_iff wide hj hj).2 rfl)

theorem Settled.owner?_site {size : UInt16} {n : Nat} {w : World} (h : Settled size n w)
    (few : n ≤ 8) (wide : 32 ≤ size.toNat) {p : PlayerId} (early : p.index < n) :
    w.owner? (site size p.index) = some p := by
  refine (h.owners _ p).2 ⟨early, (land_site_iff wide (by omega) (by omega)).2 rfl, ?_⟩
  intro j after last there
  have := (land_site_iff wide (by omega) (by omega)).1 there
  omega

theorem Settled.contains_site {size : UInt16} {n : Nat} {w : World} (h : Settled size n w)
    {i : Nat} (few : i < 8) (wide : 32 ≤ size.toNat) : w.contains (site size i) = true := by
  rw [World.contains_iff, h.formed.width_eq, h.formed.height_eq]
  exact site_inside few wide

theorem Settled.object?_site_isSome {size : UInt16} {n : Nat} {w : World} (h : Settled size n w)
    {i : Nat} (few : i < 8) (wide : 32 ≤ size.toNat) : (w.object? (site size i)).isSome = true := by
  rw [World.object?, Option.isSome_map, h.formed.node?_isSome]
  exact h.contains_site few wide

/-! One more settler. -/

theorem roster_joined {size : UInt16} {humans n : Nat} {w : World}
    (fresh : (seat n).index = w.players.size) :
    (joined size humans w n).roster = w.roster.push (seat n, nation n, control humans n) := by
  rw [joined, World.roster_foundHeadquarters, World.roster,
    World.players_addPlayer_of_fresh fresh, Array.map_push]
  rfl

theorem object?_joined {size : UInt16} {humans n : Nat} {w : World} (few : n < 8)
    (count : w.players.size = n) (pt : Point) :
    (joined size humans w n).object? pt =
      if pt = site size n then (w.object? pt).map fun _ => .building (home n)
      else w.object? pt := by
  have fresh : (seat n).index = w.players.size := (index_seat few).trans count.symm
  rw [joined, World.object?_foundHeadquarters (World.nation?_addPlayer_of_fresh fresh ..),
    World.object?_addPlayer, World.object?_addPlayer]
  by_cases here : pt = site size n
  · rw [if_pos here, if_pos here, here]
    rfl
  · rw [if_neg here, if_neg here]

structure Housed (size : UInt16) (humans n : Nat) (w : World) : Prop where
  settled : Settled size n w
  roster : w.roster.toList = (List.range n).map fun i => (seat i, nation i, control humans i)
  buildings : ∀ pt b, w.object? pt = some (.building b) ↔
    ∃ i, i < n ∧ pt = site size i ∧ b = home i

theorem housed_empty (size : UInt16) (humans : Nat) : Housed size humans 0 (.empty size size) where
  settled := settled_empty size
  roster := by simp [World.roster, World.empty]
  buildings pt b := by simp [World.object?_empty_ne_building]

theorem Housed.joined {size : UInt16} {humans n : Nat} {w : World} (h : Housed size humans n w)
    (few : n < 8) (wide : 32 ≤ size.toNat) :
    Housed size humans (n + 1) (joined size humans w n) := by
  have count := h.settled.count
  refine ⟨h.settled.joined few wide humans, ?_, fun pt b => ?_⟩
  · rw [roster_joined ((index_seat few).trans count.symm), Array.toList_push, h.roster,
      List.range_succ, List.map_append, List.map_singleton]
  · rw [object?_joined few count]
    -- The site is nobody else's, so the new home stands there and no older one is lost.
    by_cases here : pt = site size n
    · have node : (w.object? pt).isSome = true := by
        rw [here]
        exact h.settled.object?_site_isSome few wide
      obtain ⟨object, found⟩ := Option.isSome_iff_exists.1 node
      rw [if_pos here, found, Option.map_some, Option.some.injEq, NodeObject.building.injEq]
      constructor
      · rintro rfl
        exact ⟨n, Nat.lt_succ_self n, here, rfl⟩
      · rintro ⟨i, early, there, rfl⟩
        rw [site_injective wide (by omega) few (there.symm.trans here)]
    · rw [if_neg here, h.buildings]
      constructor
      · rintro ⟨i, early, there⟩
        exact ⟨i, Nat.lt_succ_of_lt early, there⟩
      · rintro ⟨i, early, there, built⟩
        have other : i ≠ n := by
          rintro rfl
          exact here there
        exact ⟨i, by omega, there, built⟩

theorem housed_settled {size : UInt16} {n : Nat} (few : n ≤ 8) (wide : 32 ≤ size.toNat)
    (humans : Nat) : Housed size humans n (settled size humans n) := by
  induction n with
  | zero => exact housed_empty size humans
  | succ n ih =>
    rw [settled_succ]
    exact (ih (by omega)).joined few wide

theorem housed_world {size : UInt16} {humans ai : UInt8} {w : World}
    (made : world size humans ai = .ok w) :
    Housed size humans.toNat (humans.toNat + ai.toNat) w := by
  obtain ⟨_, few, wide, rfl⟩ := world_eq_ok made
  have h := housed_settled few wide humans.toNat
  exact ⟨settled_world made, h.roster, h.buildings⟩

/-! What the players have. -/

namespace Housed

variable {size : UInt16} {humans n : Nat} {w : World}

theorem roster_index (h : Housed size humans n w) {p : PlayerId} (early : p.index < n) :
    w.roster[p.index]? = some (p, nation p.index, control humans p.index) := by
  rw [← Array.getElem?_toList, h.roster, List.getElem?_map, List.getElem?_range early,
    Option.map_some, seat_index]

theorem nation?_eq (h : Housed size humans n w) {p : PlayerId} (early : p.index < n) :
    w.nation? p = some (nation p.index) := by
  have entry := congrArg (Option.map (·.2.1)) (h.roster_index early)
  rwa [World.roster, Array.getElem?_map, Option.map_map] at entry

theorem control?_eq (h : Housed size humans n w) {p : PlayerId} (early : p.index < n) :
    w.control? p = some (control humans p.index) := by
  have entry := congrArg (Option.map (·.2.2)) (h.roster_index early)
  rwa [World.roster, Array.getElem?_map, Option.map_map] at entry

theorem object?_site (h : Housed size humans n w) {p : PlayerId} (early : p.index < n) :
    w.object? (site size p.index) =
      some (.building ⟨.headquarters, p, nation p.index, false⟩) := by
  refine (h.buildings _ _).2 ⟨p.index, early, rfl, ?_⟩
  rw [home, seat_index]

theorem buildingsOf_eq (h : Housed size humans n w) (few : n ≤ 8) {p : PlayerId}
    (early : p.index < n) : w.buildingsOf p = [site size p.index] := by
  have once : (w.buildingsOf p).Nodup := w.nodup_points.filter _
  have only (pt : Point) : pt ∈ w.buildingsOf p ↔ pt ∈ [site size p.index] := by
    rw [World.mem_buildingsOf, World.hasBuilding_iff, List.mem_singleton]
    constructor
    · rintro ⟨b, stands, owned⟩
      obtain ⟨i, low, there, rfl⟩ := (h.buildings pt b).1 stands
      rw [there, ← owned, home, index_seat (by omega)]
    · rintro rfl
      exact ⟨_, h.object?_site early, rfl⟩
  exact List.perm_singleton.1 ((List.perm_ext_iff_of_nodup once (List.nodup_singleton _)).2 only)

theorem countP_human {ai : Nat} (h : Housed size humans (humans + ai) w) :
    w.roster.toList.countP (·.2.2 = .human) = humans := by
  have first : (List.range humans).countP (fun i => control humans i = .human) = humans := by
    rw [List.countP_eq_length.2, List.length_range]
    intro i early
    simp [control, List.mem_range.1 early]
  have rest : ((List.range ai).map (humans + ·)).countP (fun i => control humans i = .human) =
      0 := by
    rw [List.countP_eq_zero]
    intro i late
    obtain ⟨k, _, rfl⟩ := List.mem_map.1 late
    simp [control]
  rw [h.roster, List.countP_map, List.range_add, List.countP_append]
  exact congrArg₂ (· + ·) first rest

end Housed

/-- The player has one building, a headquarters of its nation, no tent, at a point of its own land
that its slot points at. -/
structure SettledAt (w : World) (p : PlayerId) (pt : Point) : Prop where
  inside : w.contains pt = true
  slot : w.hq? p = some pt
  land : w.owner? pt = some p
  only : w.buildingsOf p = [pt]
  stands : ∃ nation, w.nation? p = some nation ∧
    w.object? pt = some (.building ⟨.headquarters, p, nation, false⟩)

theorem Housed.settledAt {size : UInt16} {humans n : Nat} {w : World} (h : Housed size humans n w)
    (few : n ≤ 8) (wide : 32 ≤ size.toNat) {p : PlayerId} (early : p.index < n) :
    SettledAt w p (site size p.index) where
  inside := h.settled.contains_site (by omega) wide
  slot := h.settled.slots p early
  land := h.settled.owner?_site few wide early
  only := h.buildingsOf_eq few early
  stands := ⟨nation p.index, h.nation?_eq early, h.object?_site early⟩

theorem exists_world_iff {size : UInt16} {humans ai : UInt8} :
    (∃ w, world size humans ai = .ok w) ↔
      (1 ≤ humans.toNat + ai.toNat ∧ humans.toNat + ai.toNat ≤ 8) ∧ 32 ≤ size.toNat := by
  constructor
  · rintro ⟨w, made⟩
    obtain ⟨some, few, wide, _⟩ := world_eq_ok made
    exact ⟨⟨some, few⟩, wide⟩
  · rintro ⟨⟨some, few⟩, wide⟩
    exact ⟨_, world_eq_settled some few wide⟩

/-- The reference world is made for one to eight players and a map of at least 32 nodes a side. Its
players, humans first, are settled at sites of their own, and nothing is left to be told. -/
theorem world_exact (size : UInt16) (humans ai : UInt8) :
    ((∃ w, world size humans ai = .ok w) ↔
      (1 ≤ humans.toNat + ai.toNat ∧ humans.toNat + ai.toNat ≤ 8) ∧ 32 ≤ size.toNat) ∧
    ∀ w, world size humans ai = .ok w →
      w.players.size = humans.toNat + ai.toNat ∧
      (∀ p : PlayerId, p.index < humans.toNat + ai.toNat →
        w.control? p = some (if p.index < humans.toNat then .human else .ai) ∧
        ∃ pt, pt.x.toNat = p.index % 4 * (size.toNat / 4) + size.toNat / 4 / 2 ∧
          pt.y.toNat = p.index / 4 * 2 * (size.toNat / 4) + size.toNat / 4 / 2 ∧
          SettledAt w p pt) ∧
      (∀ p q : PlayerId, p.index < humans.toNat + ai.toNat → q.index < humans.toNat + ai.toNat →
        w.hq? p = w.hq? q → p = q) ∧
      w.events = #[] ∧ (w.isSinglePlayer = true ↔ humans = 1) := by
  refine ⟨exists_world_iff, fun w made => ?_⟩
  obtain ⟨_, few, wide, drained⟩ := world_eq_ok made
  have h := housed_world made
  refine ⟨h.settled.count, fun p early => ?_, fun p q early early' same => ?_, ?_, ?_⟩
  · refine ⟨h.control?_eq early, site size p.index, toNat_site_x _, ?_, h.settledAt few wide early⟩
    rw [Nat.mul_assoc]
    exact toNat_site_y (by omega)
  · rw [h.settled.slots p early, h.settled.slots q early', Option.some.injEq] at same
    exact PlayerId.ext_index (site_injective wide (by omega) (by omega) same)
  · rw [drained]
    rfl
  · rw [World.isSinglePlayer_eq, h.countP_human, beq_iff_eq, ← UInt8.toNat_inj]
    rfl

theorem world_exact_33 :
    ∃ w, world 33 1 7 = .ok w ∧ w.players.size = 8 ∧ w.control? ⟨4⟩ = some .ai ∧
      SettledAt w ⟨4⟩ ⟨4, 20⟩ ∧ w.hq? ⟨0⟩ ≠ w.hq? ⟨4⟩ ∧ w.isSinglePlayer = true := by
  have made : world 33 1 7 = .ok (settled 33 1 8).drainEvents.2 :=
    world_eq_settled (by decide) (by decide) (by decide)
  obtain ⟨count, players, apart, _, single⟩ := (world_exact 33 1 7).2 _ made
  obtain ⟨control, ⟨x, y⟩, column, row, here⟩ := players ⟨4⟩ (by decide)
  have hx : x = 4 := UInt16.toNat_inj.1 column
  have hy : y = 20 := UInt16.toNat_inj.1 row
  subst hx hy
  exact ⟨_, made, count, control, here, fun same =>
    absurd (apart ⟨0⟩ ⟨4⟩ (by decide) (by decide) same) (by decide), single.2 rfl⟩

end CheatCodes.Reference
