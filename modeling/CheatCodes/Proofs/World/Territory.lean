import CheatCodes.Proofs.World.Ground
import CheatCodes.Proofs.World.WellFormed
import Mathlib.Data.List.Rotate
/-!
Land and who owns it. A claim gives the nodes of its square away and no other. How many there are
is counted along each axis alone: a ring of places meets every one of the `2 * radius + 1` columns
once, or all of its own if it has fewer.
-/
namespace CheatCodes.World

def landOf (w : World) (p : PlayerId) : List Point :=
  w.points.filter fun pt => w.owner? pt = some p

/-- Whether a point lies in the square around another, wrapped around the edges of the map. -/
def InSquare (w : World) (center : Point) (radius : UInt16) (pt : Point) : Prop :=
  Reaches w.width radius center.x pt.x ∧ Reaches w.height radius center.y pt.y

instance (w : World) (center : Point) (radius : UInt16) (pt : Point) :
    Decidable (w.InSquare center radius pt) :=
  inferInstanceAs (Decidable (_ ∧ _))

theorem InSquare.contains {w : World} {center pt : Point} {radius : UInt16}
    (h : w.InSquare center radius pt) : w.contains pt = true :=
  contains_iff.2 ⟨UInt16.lt_iff_toNat_lt.1 h.1.1, UInt16.lt_iff_toNat_lt.1 h.2.1⟩

theorem node?_claimTerritory (w : World) (center : Point) (radius : UInt16) (p : PlayerId)
    (pt : Point) :
    (w.claimTerritory center radius p).node? pt =
      if w.InSquare center radius pt then (w.node? pt).map ({ · with owner := some p })
      else w.node? pt := by
  rw [claimTerritory, node?_record, node?_claimed]
  by_cases inside : w.contains pt = true
  · exact if_congr (mem_square_iff inside) rfl rfl
  · simp [node?_outside inside]

@[simp] theorem contains_claimTerritory (w : World) (center : Point) (radius : UInt16)
    (p : PlayerId) (pt : Point) :
    (w.claimTerritory center radius p).contains pt = w.contains pt :=
  contains_congr (claimed_frame (w.square center radius) p w).1
    (claimed_frame (w.square center radius) p w).2.1 pt

theorem claimTerritory_players (w : World) (center : Point) (radius : UInt16) (p : PlayerId) :
    (w.claimTerritory center radius p).players = w.players :=
  (claimed_frame (w.square center radius) p w).2.2.1

@[simp] theorem player?_claimTerritory (w : World) (center : Point) (radius : UInt16)
    (owner p : PlayerId) : (w.claimTerritory center radius owner).player? p = w.player? p := by
  rw [player?, claimTerritory_players, player?]

@[simp] theorem hq?_claimTerritory (w : World) (center : Point) (radius : UInt16)
    (owner p : PlayerId) : (w.claimTerritory center radius owner).hq? p = w.hq? p := by
  rw [hq?, player?_claimTerritory, hq?]

theorem owner?_claimTerritory {w : World}
    (filled : w.nodes.size = w.width.toNat * w.height.toNat) (center : Point) (radius : UInt16)
    (p : PlayerId) (pt : Point) :
    (w.claimTerritory center radius p).owner? pt =
      if w.InSquare center radius pt then some p else w.owner? pt := by
  rw [owner?, node?_claimTerritory]
  by_cases claimed : w.InSquare center radius pt
  · have node := (node?_isSome_of_filled filled pt).trans claimed.contains
    obtain ⟨n, found⟩ := Option.isSome_iff_exists.1 node
    simp [claimed, found]
  · simp [claimed, owner?]

/-! A founded headquarters: the claim around it and the building. -/

theorem foundHeadquarters_of_known {w : World} {p : PlayerId} {nation : Nation}
    (known : w.nation? p = some nation) (pt : Point) :
    w.foundHeadquarters p pt =
      (w.claimTerritory pt hqRadius p).createBuilding pt ⟨.headquarters, p, nation, false⟩ := by
  rw [foundHeadquarters, known]

theorem roster_foundHeadquarters (w : World) (p : PlayerId) (pt : Point) :
    (w.foundHeadquarters p pt).roster = w.roster := by
  unfold foundHeadquarters
  split
  · rfl
  · rw [roster_createBuilding, roster, claimTerritory_players, roster]

theorem owner?_foundHeadquarters {width height : UInt16} {w : World}
    (formed : w.WellFormed width height) {p : PlayerId} {nation : Nation}
    (known : w.nation? p = some nation) (pt qt : Point) :
    (w.foundHeadquarters p pt).owner? qt =
      if w.InSquare pt hqRadius qt then some p else w.owner? qt := by
  rw [foundHeadquarters_of_known known, owner?_congr (ground_createBuilding ..),
    owner?_claimTerritory formed.filled]

theorem hq?_foundHeadquarters {w : World} {p : PlayerId} {nation : Nation}
    (known : w.nation? p = some nation) {pt : Point} (inside : w.contains pt = true)
    (q : PlayerId) :
    (w.foundHeadquarters p pt).hq? q = if q = p then some ((w.hq? q).getD pt) else w.hq? q := by
  have still : (w.claimTerritory pt hqRadius p).contains pt = true := by
    rw [contains_claimTerritory]
    exact inside
  rw [foundHeadquarters_of_known known, hq?_createBuilding still, player?_claimTerritory,
    hq?_claimTerritory]
  by_cases own : q = p
  · obtain ⟨player, found, _⟩ := Option.map_eq_some_iff.1 known
    simp [own, found]
  · simp [own]

/-! The size of a square. -/

theorem countP_le_range (n size : Nat) :
    (List.range size).countP (fun b => decide (b ≤ n)) = min (n + 1) size := by
  induction size with
  | zero => simp
  | succ size ih =>
    rw [List.range_succ, List.countP_append, ih, List.countP_singleton]
    by_cases low : size ≤ n
    · simp only [low, decide_true, if_true]
      omega
    · simp only [low, decide_false, Bool.false_eq_true, if_false]
      omega

theorem countP_range_turned (f : Nat → Bool) (size k : Nat) :
    (List.range size).countP (fun b => f ((b + k) % size)) = (List.range size).countP f := by
  have turned : (List.range size).rotate k = (List.range size).map fun b => (b + k) % size :=
    List.ext_getElem (by simp) fun i _ _ => by simp [List.getElem_rotate]
  calc (List.range size).countP (fun b => f ((b + k) % size))
      = ((List.range size).map fun b => (b + k) % size).countP f := by rw [List.countP_map]; rfl
    _ = ((List.range size).rotate k).countP f := by rw [turned]
    _ = (List.range size).countP f := (List.rotate_perm _ k).countP_eq f

theorem countP_reaches (size radius a : UInt16) :
    (List.range size.toNat).countP (fun b => decide (Reaches size radius a b.toUInt16)) =
      min (2 * radius.toNat + 1) size.toNat := by
  have shift (b : Nat) (inside : b < size.toNat) : Reaches size radius a b.toUInt16 ↔
      (b + (((radius.toNat : Int) - a.toNat) % size.toNat).toNat) % size.toNat ≤
        2 * radius.toNat := by
    have small : b.toUInt16.toNat = b :=
      UInt16.toNat_ofNat_of_lt' (Nat.lt_trans inside size.toNat_lt)
    have low := Int.emod_nonneg ((radius.toNat : Int) - a.toNat) (b := size.toNat) (by omega)
    have turn : ((b : Int) - a.toNat + radius.toNat) % size.toNat =
        (b + (((radius.toNat : Int) - a.toNat) % size.toNat).toNat : Nat) % size.toNat := by
      rw [Int.natCast_add, Int.toNat_of_nonneg low, Int.add_emod_emod]
      congr 1
      omega
    rw [reaches_iff, small, turn, UInt16.lt_iff_toNat_lt, small]
    omega
  have counted : (List.range size.toNat).countP (fun b => decide (Reaches size radius a
      b.toUInt16)) = (List.range size.toNat).countP (fun b => decide
        ((b + (((radius.toNat : Int) - a.toNat) % size.toNat).toNat) % size.toNat ≤
          2 * radius.toNat)) := by
    refine List.countP_congr fun b member => ?_
    simp only [decide_eq_true_eq]
    exact shift b (List.mem_range.1 member)
  rw [counted, countP_range_turned fun b => decide (b ≤ 2 * radius.toNat), countP_le_range]

theorem countP_points (w : World) (column row : UInt16 → Bool) :
    w.points.countP (fun pt => column pt.x && row pt.y) =
      (List.range w.width.toNat).countP (fun x => column x.toUInt16) *
        (List.range w.height.toNat).countP (fun y => row y.toUInt16) := by
  unfold points
  induction List.range w.height.toNat with
  | nil => simp
  | cons y ys ih =>
    rw [List.flatMap_cons, List.countP_append, ih, List.countP_map, List.countP_cons]
    by_cases counts : row y.toUInt16 = true
    · simp only [Function.comp_def, counts, Bool.and_true, if_true]
      rw [Nat.mul_add, Nat.mul_one, Nat.add_comm]
    · simp [Function.comp_def, counts]

theorem countP_square (w : World) (center : Point) (radius : UInt16) :
    w.points.countP (fun pt => decide (w.InSquare center radius pt)) =
      min (2 * radius.toNat + 1) w.width.toNat * min (2 * radius.toNat + 1) w.height.toNat := by
  have apart : (fun pt : Point => decide (w.InSquare center radius pt)) = fun pt =>
      decide (Reaches w.width radius center.x pt.x) &&
        decide (Reaches w.height radius center.y pt.y) := by
    funext pt
    exact Bool.decide_and _ _
  rw [apart, countP_points w (fun x => decide (Reaches w.width radius center.x x))
    fun y => decide (Reaches w.height radius center.y y), countP_reaches, countP_reaches]

theorem length_landOf {w : World} {p : PlayerId} {center : Point} {radius : UInt16}
    (h : ∀ pt, w.owner? pt = some p ↔ w.InSquare center radius pt) :
    (w.landOf p).length =
      min (2 * radius.toNat + 1) w.width.toNat * min (2 * radius.toNat + 1) w.height.toNat := by
  rw [← w.countP_square center, landOf, ← List.countP_eq_length_filter]
  exact List.countP_congr fun pt _ => by simp [h]

end CheatCodes.World
