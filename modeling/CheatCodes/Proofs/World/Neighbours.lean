import CheatCodes.Proofs.World.Square
/-!
When adjacency is mutual. Where the rows have an even number, or a single one, the step back from a
neighbour is a step of its own row. With an odd number of rows the first and the last lie next to
each other round the edge and neither is shifted, so the steps back fail there, unless the map is
so narrow that both steps to a row lead to the same nodes.
-/
namespace CheatCodes.World

/-- A step from a node to one of the six around it, from a row shifted by `shift`. -/
def IsStep (shift dx dy : Int) : Prop :=
  (dy = 0 ∧ (dx = -1 ∨ dx = 1)) ∨ ((dy = -1 ∨ dy = 1) ∧ (dx = shift - 1 ∨ dx = shift))

def Leads (size a : UInt16) (d : Int) (b : UInt16) : Prop :=
  (a.toNat + d) % size.toNat = b.toNat

theorem offset_eq_iff {w : World} {p q : Point} (inside : w.contains q = true) (dx dy : Int) :
    w.offset p dx dy = q ↔ Leads w.width p.x dx q.x ∧ Leads w.height p.y dy q.y := by
  simp only [contains, Bool.and_eq_true, decide_eq_true_eq] at inside
  obtain ⟨column, row⟩ := inside
  rw [Leads, Leads, ← wrap_eq_iff column, ← wrap_eq_iff row]
  cases q
  simp [offset]

theorem mem_neighbours_iff {w : World} {p q : Point} (inside : w.contains q = true) :
    q ∈ w.neighbours p ↔
      ∃ dx dy, IsStep (p.y.toNat % 2 : Nat) dx dy ∧ Leads w.width p.x dx q.x ∧
        Leads w.height p.y dy q.y := by
  simp only [neighbours, List.mem_cons, List.not_mem_nil, or_false, eq_comm (a := q),
    offset_eq_iff inside]
  constructor
  · rintro (h | h | h | h | h | h)
    all_goals exact ⟨_, _, by simp [IsStep], h⟩
  · rintro ⟨dx, dy, ⟨rfl, rfl | rfl⟩ | ⟨rfl | rfl, rfl | rfl⟩, h⟩
    all_goals simp_all

theorem Leads.back {size a b : UInt16} {d : Int} (h : Leads size a d b) (inside : a < size) :
    Leads size b (-d) a := by
  have small : a.toNat < size.toNat := UInt16.lt_iff_toNat_lt.1 inside
  have undo : ((a.toNat : Int) + d) % size.toNat + -d = (a.toNat + d) % size.toNat - d := by omega
  rw [Leads, ← h, undo, Int.emod_sub_emod, Int.add_sub_cancel,
    Int.emod_eq_of_lt (by omega) (by omega)]

theorem Leads.congr {size a b : UInt16} {d e : Int} (h : Leads size a d b)
    (same : (size.toNat : Int) ∣ e - d) : Leads size a e b := by
  obtain ⟨k, turn⟩ := same
  have : (a.toNat : Int) + e = a.toNat + d + size.toNat * k := by omega
  rw [Leads, this, Int.add_mul_emod_self_left]
  exact h

theorem Leads.parity {size a b : UInt16} {d : Int} (h : Leads size a d b)
    (even : size.toNat % 2 = 0) : (b.toNat : Int) % 2 = (a.toNat + d) % 2 := by
  rw [← h, Int.emod_emod_of_dvd]
  omega

/-- The maps on which a step back is always a step: those with an even number of rows or a single
one, and those with at most two columns. -/
def BacksUp (w : World) : Prop :=
  w.height.toNat % 2 = 0 ∨ w.height.toNat = 1 ∨ w.width.toNat ≤ 2

theorem step_back {w : World} (backs : w.BacksUp) {p q : Point} (inside : w.contains p = true)
    (inside' : w.contains q = true) {dx dy : Int} (step : IsStep (p.y.toNat % 2 : Nat) dx dy)
    (column : Leads w.width p.x dx q.x) (row : Leads w.height p.y dy q.y) :
    ∃ ex ey, IsStep (q.y.toNat % 2 : Nat) ex ey ∧ Leads w.width q.x ex p.x ∧
      Leads w.height q.y ey p.y := by
  have ⟨xp, yp⟩ := contains_iff.1 inside
  have ⟨_, yq⟩ := contains_iff.1 inside'
  have columnBack := column.back (UInt16.lt_iff_toNat_lt.2 xp)
  have rowBack := row.back (UInt16.lt_iff_toNat_lt.2 yp)
  rcases step with ⟨level, side⟩ | ⟨level, side⟩
  · exact ⟨-dx, -dy, .inl ⟨by omega, by omega⟩, columnBack, rowBack⟩
  -- To the row above or below: how its shift compares decides which steps lead back.
  rcases backs with even | single | narrow
  · have parity := row.parity even
    exact ⟨-dx, -dy, .inr ⟨by omega, by omega⟩, columnBack, rowBack⟩
  · have still (ey : Int) : Leads w.height q.y ey p.y :=
      rowBack.congr (by rw [single]; exact Int.one_dvd _)
    by_cases straight : dx = 0
    · exact ⟨-dx, 1, .inr ⟨.inr rfl, .inr (by omega)⟩, columnBack, still 1⟩
    · exact ⟨-dx, 0, .inl ⟨rfl, by omega⟩, columnBack, still 0⟩
  · have turn : (w.width.toNat : Int) ∣ (q.y.toNat % 2 : Nat) - -dx ∨
        (w.width.toNat : Int) ∣ (q.y.toNat % 2 : Nat) - 1 - -dx := by
      have sizes : w.width.toNat = 1 ∨ w.width.toNat = 2 := by omega
      rcases sizes with one | two
      · exact .inl (by rw [one]; exact Int.one_dvd _)
      · rw [two]
        omega
    rcases turn with same | same
    · exact ⟨_, -dy, .inr ⟨by omega, .inr rfl⟩, columnBack.congr same, rowBack⟩
    · exact ⟨_, -dy, .inr ⟨by omega, .inl rfl⟩, columnBack.congr same, rowBack⟩

theorem mem_neighbours_back {w : World} (backs : w.BacksUp) {p q : Point}
    (inside : w.contains p = true) (inside' : w.contains q = true) (near : q ∈ w.neighbours p) :
    p ∈ w.neighbours q := by
  obtain ⟨dx, dy, step, column, row⟩ := (mem_neighbours_iff inside').1 near
  exact (mem_neighbours_iff inside).2 (step_back backs inside inside' step column row)

/-- On every other map the second node of the first row has a neighbour in the last row that it is
no neighbour of. -/
theorem seam_one_sided {w : World} (odd : ¬ w.BacksUp) :
    ∃ p q, w.contains p = true ∧ w.contains q = true ∧ q ∈ w.neighbours p ∧
      p ∉ w.neighbours q := by
  simp only [BacksUp, not_or, Nat.not_le] at odd
  have last : (w.height - 1).toNat = w.height.toNat - 1 :=
    UInt16.toNat_sub_of_le _ _ (UInt16.le_iff_toNat_le.2 (by rw [UInt16.toNat_one]; omega))
  have inside : w.contains ⟨1, 0⟩ = true := contains_iff.2 ⟨by simp; omega, by simp; omega⟩
  have inside' : w.contains ⟨0, w.height - 1⟩ = true :=
    contains_iff.2 ⟨by simp; omega, by simp only [last]; omega⟩
  have before (size : Nat) (some : 0 < size) : (-1 : Int) % size = size - 1 := by
    rw [← Int.add_emod_right, Int.emod_eq_of_lt (by omega) (by omega)]
    omega
  refine ⟨⟨1, 0⟩, ⟨0, w.height - 1⟩, inside, inside', ?_, ?_⟩
  · have up : Leads w.height 0 (-1) (w.height - 1) := by
      rw [Leads, last, UInt16.toNat_zero, Int.natCast_zero, Int.zero_add, before _ (by omega)]
      omega
    exact (mem_neighbours_iff inside').2
      ⟨-1, -1, .inr ⟨.inl rfl, .inl (by simp)⟩, by simp [Leads], up⟩
  · rw [mem_neighbours_iff inside]
    rintro ⟨dx, dy, step, column, row⟩
    simp only [Leads, last, UInt16.toNat_zero, UInt16.toNat_one] at column row
    have down : dy = 1 := by
      rcases step with ⟨rfl, _⟩ | ⟨rfl | rfl, _⟩
      · rw [Int.emod_eq_of_lt (by omega) (by omega)] at row
        omega
      · rw [Int.emod_eq_of_lt (by omega) (by omega)] at row
        omega
      · rfl
    have flat : (w.height - 1).toNat % 2 = 0 := by omega
    have side : dx = -1 ∨ dx = 0 := by
      rcases step with ⟨level, _⟩ | ⟨_, side⟩
      · omega
      · simpa only [flat, Int.natCast_zero, Int.zero_sub] using side
    rcases side with rfl | rfl
    · rw [Int.natCast_zero, Int.zero_add, before _ (by omega)] at column
      omega
    · simp at column

/-- Adjacency is mutual on just those maps. -/
theorem neighbours_mutual_iff (w : World) :
    (∀ p q, w.contains p = true → w.contains q = true →
      (q ∈ w.neighbours p ↔ p ∈ w.neighbours q)) ↔
    w.height.toNat % 2 = 0 ∨ w.height.toNat = 1 ∨ w.width.toNat ≤ 2 := by
  constructor
  · intro both
    refine Decidable.byContradiction fun odd => ?_
    obtain ⟨p, q, inside, inside', near, apart⟩ := seam_one_sided odd
    exact apart ((both p q inside inside').1 near)
  · intro backs p q inside inside'
    exact ⟨mem_neighbours_back backs inside inside', mem_neighbours_back backs inside' inside⟩

theorem neighbours_one_sided_33 :
    (empty 33 33).contains ⟨1, 0⟩ = true ∧ (empty 33 33).contains ⟨0, 32⟩ = true ∧
      ⟨0, 32⟩ ∈ (empty 33 33).neighbours ⟨1, 0⟩ ∧ ⟨1, 0⟩ ∉ (empty 33 33).neighbours ⟨0, 32⟩ := by
  decide

end CheatCodes.World
