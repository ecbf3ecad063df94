import CheatCodes.World.Settlement
import CheatCodes.World.View
/-!
The square around a point, by its nodes. A coordinate lies in the square if at most `radius` steps
lead to it round the edges of the map, and a claim gives just those nodes to its owner.
-/
namespace CheatCodes.World

/-- At most `radius` steps round a ring of `size` places lead from `a` to `b`. -/
def Reaches (size radius a b : UInt16) : Prop :=
  b < size ∧ ∃ d : Int, -(radius.toNat : Int) ≤ d ∧ d ≤ radius.toNat ∧
    (a.toNat + d) % size.toNat = b.toNat

theorem reaches_iff {size radius a b : UInt16} :
    Reaches size radius a b ↔
      b < size ∧ ((b.toNat : Int) - a.toNat + radius.toNat) % size.toNat ≤ 2 * radius.toNat := by
  refine and_congr_right fun inside => ?_
  have small : b.toNat < size.toNat := UInt16.lt_iff_toNat_lt.1 inside
  have positive : (0 : Int) < size.toNat := by omega
  constructor
  · rintro ⟨d, low, high, reached⟩
    have same : ((b.toNat : Int) - a.toNat + radius.toNat) % size.toNat =
        (d + radius.toNat) % size.toNat := by
      rw [← reached, Int.add_emod, Int.emod_sub_emod, ← Int.add_emod]
      congr 1
      omega
    rw [same]
    by_cases short : d + radius.toNat < size.toNat
    · rw [Int.emod_eq_of_lt (by omega) short]
      omega
    · have := Int.emod_lt_of_pos (d + radius.toNat) positive
      omega
  · intro near
    refine ⟨((b.toNat : Int) - a.toNat + radius.toNat) % size.toNat - radius.toNat, ?_, ?_, ?_⟩
    · have := Int.emod_nonneg ((b.toNat : Int) - a.toNat + radius.toNat) (Int.ne_of_gt positive)
      omega
    · omega
    · have shift : (a.toNat : Int) + (((b.toNat : Int) - a.toNat + radius.toNat) % size.toNat -
          radius.toNat) = ((b.toNat : Int) - a.toNat + radius.toNat) % size.toNat +
            (a.toNat - radius.toNat) := by
        omega
      rw [shift, Int.emod_add_emod, Int.emod_eq_of_lt (by omega) (by omega)]
      omega

instance (size radius a b : UInt16) : Decidable (Reaches size radius a b) :=
  decidable_of_iff _ reaches_iff.symm

theorem reaches_of_near {size radius a b : UInt16} (inside : b.toNat < size.toNat)
    (low : a.toNat ≤ b.toNat + radius.toNat) (high : b.toNat ≤ a.toNat + radius.toNat) :
    Reaches size radius a b := by
  refine ⟨UInt16.lt_iff_toNat_lt.2 inside, b.toNat - a.toNat, by omega, by omega, ?_⟩
  rw [Int.emod_eq_of_lt (by omega) (by omega)]
  omega

theorem not_reaches_of_apart {size radius a b c : UInt16}
    (gap : a.toNat + 2 * radius.toNat < b.toNat)
    (seam : b.toNat + 2 * radius.toNat < a.toNat + size.toNat) (near : Reaches size radius a c) :
    ¬ Reaches size radius b c := by
  rintro ⟨_, e, elow, ehigh, fromB⟩
  obtain ⟨_, d, dlow, dhigh, fromA⟩ := near
  have same : ((b.toNat : Int) + e - (a.toNat + d)) % size.toNat = 0 :=
    Int.emod_eq_emod_iff_emod_sub_eq_zero.1 (fromB.trans fromA.symm)
  rw [Int.emod_eq_of_lt (by omega) (by omega)] at same
  omega

theorem not_reaches_of_far {size radius a b : UInt16} (far : a.toNat + radius.toNat < b.toNat)
    (seam : b.toNat + radius.toNat < a.toNat + size.toNat) :
    ¬ Reaches size radius a b ∧ ¬ Reaches size radius b a := by
  rw [reaches_iff, reaches_iff]
  constructor
  · rintro ⟨inside, near⟩
    rw [UInt16.lt_iff_toNat_lt] at inside
    rw [Int.emod_eq_of_lt (by omega) (by omega)] at near
    omega
  · rintro ⟨_, near⟩
    rw [← Int.add_emod_right, Int.emod_eq_of_lt (by omega) (by omega)] at near
    omega

theorem toNat_wrap {size : UInt16} (positive : 0 < size.toNat) (a : UInt16) (d : Int) :
    ((wrap size a d).toNat : Int) = (a.toNat + d) % size.toNat := by
  have top := size.toNat_lt
  have low := Int.emod_nonneg ((a.toNat : Int) + d) (b := size.toNat) (by omega)
  have high := Int.emod_lt_of_pos ((a.toNat : Int) + d) (b := size.toNat) (by omega)
  have one : max size.toNat 1 = size.toNat := by omega
  simp only [wrap, one, UInt16.toNat_ofNat', Nat.toUInt16_eq]
  omega

theorem wrap_eq_iff {size a b : UInt16} (inside : b < size) (d : Int) :
    wrap size a d = b ↔ (a.toNat + d) % size.toNat = b.toNat := by
  have small : b.toNat < size.toNat := UInt16.lt_iff_toNat_lt.1 inside
  rw [← toNat_wrap (by omega) a d, ← UInt16.toNat_inj]
  omega

theorem mem_square_iff {w : World} {center pt : Point} {radius : UInt16}
    (inside : w.contains pt = true) :
    pt ∈ w.square center radius ↔
      Reaches w.width radius center.x pt.x ∧ Reaches w.height radius center.y pt.y := by
  simp only [contains, Bool.and_eq_true, decide_eq_true_eq] at inside
  obtain ⟨column, row⟩ := inside
  simp only [square, List.mem_flatMap, List.mem_map, mem_distances, offset]
  constructor
  · rintro ⟨dy, ⟨south, north⟩, dx, ⟨west, east⟩, rfl⟩
    exact ⟨⟨column, dx, west, east, (wrap_eq_iff column dx).1 rfl⟩,
      ⟨row, dy, south, north, (wrap_eq_iff row dy).1 rfl⟩⟩
  · rintro ⟨⟨_, dx, west, east, reachedX⟩, ⟨_, dy, south, north, reachedY⟩⟩
    refine ⟨dy, ⟨south, north⟩, dx, ⟨west, east⟩, ?_⟩
    rw [(wrap_eq_iff column dx).2 reachedX, (wrap_eq_iff row dy).2 reachedY]

end CheatCodes.World
