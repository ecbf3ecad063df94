import CheatCodes.Proofs.World.Neighbours
import CheatCodes.Proofs.World.Territory
/-!
Walks from neighbour to neighbour. A step goes at most one column and one row, from a shifted row as
from any other; so `n` steps lead at most `n` columns and `n` rows away round the edges, and a claim
takes every node that no more steps than its radius lead to.
-/
namespace CheatCodes.World

inductive Walk (w : World) (start : Point) : Nat → Point → Prop
  | stay : Walk w start 0 start
  | step {n : Nat} {p q : Point} (walk : Walk w start n p) (near : q ∈ w.neighbours p) :
      Walk w start (n + 1) q

/-! Rings. -/

theorem Leads.trans {size a b c : UInt16} {d e : Int} (first : Leads size a d b)
    (second : Leads size b e c) : Leads size a (d + e) c := by
  rw [Leads, ← second, ← first, Int.emod_add_emod, Int.add_assoc]

/-- At most `n` places lie between `a` and `b` on one way round a ring of `size` places. -/
def Within (size : UInt16) (n : Nat) (a b : UInt16) : Prop :=
  ∃ d : Int, -(n : Int) ≤ d ∧ d ≤ n ∧ Leads size a d b

theorem within_self {size a : UInt16} (inside : a < size) : Within size 0 a a := by
  have small : a.toNat < size.toNat := UInt16.lt_iff_toNat_lt.1 inside
  refine ⟨0, by omega, by omega, ?_⟩
  rw [Leads, Int.add_zero, Int.emod_eq_of_lt (by omega) (by omega)]

theorem Within.trans {size a b c : UInt16} {m n : Nat} (first : Within size m a b)
    (second : Within size n b c) : Within size (m + n) a c := by
  obtain ⟨d, dlow, dhigh, there⟩ := first
  obtain ⟨e, elow, ehigh, on⟩ := second
  exact ⟨d + e, by omega, by omega, there.trans on⟩

theorem Within.reaches {size a b radius : UInt16} {n : Nat} (h : Within size n a b)
    (inside : b < size) (short : n ≤ radius.toNat) : Reaches size radius a b := by
  obtain ⟨d, low, high, there⟩ := h
  exact ⟨inside, d, by omega, by omega, there⟩

/-! Steps and walks. -/

theorem contains_offset {w : World} {pt : Point} (inside : w.contains pt = true) (dx dy : Int) :
    w.contains (w.offset pt dx dy) = true := by
  obtain ⟨column, row⟩ := contains_iff.1 inside
  have low (size a : UInt16) (d : Int) (positive : 0 < size.toNat) :
      (wrap size a d).toNat < size.toNat := by
    have place := toNat_wrap positive a d
    have below := Int.emod_lt_of_pos ((a.toNat : Int) + d) (b := size.toNat) (by omega)
    omega
  exact contains_iff.2 ⟨low w.width pt.x dx (by omega), low w.height pt.y dy (by omega)⟩

theorem contains_of_mem_neighbours {w : World} {p q : Point} (inside : w.contains p = true)
    (near : q ∈ w.neighbours p) : w.contains q = true := by
  simp only [neighbours, List.mem_cons, List.not_mem_nil, or_false] at near
  rcases near with rfl | rfl | rfl | rfl | rfl | rfl
  all_goals exact contains_offset inside ..

theorem IsStep.small {row : Nat} {dx dy : Int} (step : IsStep (row % 2 : Nat) dx dy) :
    (-1 ≤ dx ∧ dx ≤ 1) ∧ -1 ≤ dy ∧ dy ≤ 1 := by
  rcases step with ⟨level, side⟩ | ⟨level, side⟩
  · omega
  · omega

theorem within_of_mem_neighbours {w : World} {p q : Point} (inside : w.contains p = true)
    (near : q ∈ w.neighbours p) : Within w.width 1 p.x q.x ∧ Within w.height 1 p.y q.y := by
  have inside' := contains_of_mem_neighbours inside near
  obtain ⟨dx, dy, step, column, row⟩ := (mem_neighbours_iff inside').1 near
  obtain ⟨⟨west, east⟩, north, south⟩ := step.small
  exact ⟨⟨dx, west, east, column⟩, dy, north, south, row⟩

theorem Walk.within {w : World} {start pt : Point} {n : Nat} (walk : w.Walk start n pt)
    (inside : w.contains start = true) :
    w.contains pt = true ∧ Within w.width n start.x pt.x ∧ Within w.height n start.y pt.y := by
  induction walk with
  | stay =>
    obtain ⟨column, row⟩ := contains_iff.1 inside
    exact ⟨inside, within_self (UInt16.lt_iff_toNat_lt.2 column),
      within_self (UInt16.lt_iff_toNat_lt.2 row)⟩
  | step walk near ih =>
    obtain ⟨before, columns, rows⟩ := ih
    obtain ⟨column, row⟩ := within_of_mem_neighbours before near
    exact ⟨contains_of_mem_neighbours before near, columns.trans column, rows.trans row⟩

theorem Walk.inSquare {w : World} {center pt : Point} {n : Nat} (walk : w.Walk center n pt)
    (inside : w.contains center = true) {radius : UInt16} (short : n ≤ radius.toNat) :
    w.InSquare center radius pt := by
  obtain ⟨there, columns, rows⟩ := walk.within inside
  obtain ⟨column, row⟩ := contains_iff.1 there
  exact ⟨columns.reaches (UInt16.lt_iff_toNat_lt.2 column) short,
    rows.reaches (UInt16.lt_iff_toNat_lt.2 row) short⟩

/-- A claim takes every node that at most `radius` steps from its center lead to. -/
theorem owner?_claimTerritory_of_walk {w : World}
    (filled : w.nodes.size = w.width.toNat * w.height.toNat) {center : Point}
    (inside : w.contains center = true) (radius : UInt16) (owner : PlayerId) {n : Nat}
    (short : n ≤ radius.toNat) {pt : Point} (walk : w.Walk center n pt) :
    (w.claimTerritory center radius owner).owner? pt = some owner := by
  rw [owner?_claimTerritory filled, if_pos (walk.inSquare inside short)]

theorem owner?_claimTerritory_of_walk_corner :
    let w := empty 7 5
    w.contains ⟨0, 0⟩ = true ∧ ⟨6, 4⟩ ∈ w.neighbours ⟨0, 0⟩ ∧ ⟨5, 3⟩ ∈ w.neighbours ⟨6, 4⟩ ∧
      (w.claimTerritory ⟨0, 0⟩ 2 ⟨0⟩).owner? ⟨5, 3⟩ = some ⟨0⟩ := by
  intro w
  have first : ⟨6, 4⟩ ∈ w.neighbours ⟨0, 0⟩ := by decide
  have second : ⟨5, 3⟩ ∈ w.neighbours ⟨6, 4⟩ := by decide
  exact ⟨by decide, first, second, owner?_claimTerritory_of_walk (by decide) (by decide) 2 ⟨0⟩
    (Nat.le_refl 2) ((Walk.stay.step first).step second)⟩

end CheatCodes.World
