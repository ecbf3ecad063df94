import CheatCodes.Config
import Mathlib.Algebra.Ring.Nat
import Mathlib.Logic.Function.Iterate
/-!
The frame length of a speed step: the base is halved at each step and never falls below a
millisecond. The shift has that value for every step, also where it has pushed out all of the base.
Main statement: `frameLength_exact`.
-/
namespace CheatCodes.CheatConfig

theorem toNat_floor (ms : UInt32) : (max ms 1).toNat = max 1 ms.toNat := by
  change (if ms ≤ 1 then 1 else ms).toNat = max 1 ms.toNat
  split
  · rename_i low
    rw [UInt32.le_iff_toNat_le] at low
    exact (Nat.max_eq_left low).symm
  · rename_i high
    rw [UInt32.le_iff_toNat_le] at high
    exact (Nat.max_eq_right (Nat.le_of_not_le high)).symm

theorem toNat_frameMs (c : CheatConfig) (step : UInt8) :
    (c.frameMs step).toNat = max 1 (c.baseFrameMs.toNat / 2 ^ step.toNat) := by
  rw [frameMs, toNat_floor]
  congr 1
  split
  · rename_i low
    have small : step.toNat < 32 := UInt8.lt_iff_toNat_lt.1 low
    rw [UInt32.toNat_shiftRight, UInt8.toNat_toUInt32, Nat.mod_eq_of_lt small,
      Nat.shiftRight_eq_div_pow]
  · rename_i high
    rw [UInt8.lt_iff_toNat_lt] at high
    have large : 32 ≤ step.toNat := Nat.not_lt.1 high
    have gone : c.baseFrameMs.toNat < 2 ^ step.toNat :=
      Nat.lt_of_lt_of_le c.baseFrameMs.toNat_lt (Nat.pow_le_pow_right (by decide) large)
    rw [Nat.div_eq_of_lt gone, UInt32.toNat_zero]

theorem nanoseconds_frameLength (c : CheatConfig) (step : UInt8) :
    (c.frameLength step).nanoseconds =
      max 1 (c.baseFrameMs.toNat / 2 ^ step.toNat) * 1000000 := by
  simp only [frameLength, Duration.ofMillis, toNat_frameMs]

theorem millis_frameLength (c : CheatConfig) (step : UInt8) :
    (c.frameLength step).millis = max 1 (c.baseFrameMs.toNat / 2 ^ step.toNat) := by
  rw [frameLength, Duration.millis_ofMillis, toNat_frameMs]

/-! Halving step by step. -/

/-- One step: half as long, and a millisecond at least. -/
def halve (ms : Nat) : Nat :=
  max 1 (ms / 2)

theorem floor_div_floor (ms k l : Nat) :
    max 1 (max 1 (ms / 2 ^ k) / 2 ^ l) = max 1 (ms / 2 ^ (k + l)) := by
  rw [Nat.pow_add, ← Nat.div_div_eq_div_mul]
  rcases Nat.eq_zero_or_pos (ms / 2 ^ k) with gone | left
  · have floor : 1 / 2 ^ l ≤ 1 := Nat.div_le_self 1 (2 ^ l)
    rw [gone, Nat.zero_div, Nat.max_eq_left (Nat.zero_le 1), Nat.max_eq_left floor]
  · rw [Nat.max_eq_right left]

theorem iterate_halve (ms steps : Nat) : halve^[steps] (max 1 ms) = max 1 (ms / 2 ^ steps) := by
  induction steps with
  | zero => rw [Nat.pow_zero, Nat.div_one, Function.iterate_zero_apply]
  | succ steps ih =>
    rw [Function.iterate_succ_apply', ih, halve]
    exact floor_div_floor ms steps 1

/-- At every step a frame lasts the base divided by that power of two, rounded down, and a
millisecond at least: no step wraps the shift around, later steps are never longer, and steps taken
one after another come to the same as all of them at once. -/
theorem frameLength_exact (c : CheatConfig) :
    (∀ step : UInt8, (c.frameLength step).nanoseconds =
      max 1 (c.baseFrameMs.toNat / 2 ^ step.toNat) * 1000000) ∧
    (∀ step : UInt8, 32 ≤ step → c.frameLength step = .ofMillis 1) ∧
    (∀ step : UInt8, 0 < (c.frameLength step).nanoseconds) ∧
    (∀ a b : UInt8, a ≤ b → (c.frameLength b).nanoseconds ≤ (c.frameLength a).nanoseconds) ∧
    (∀ a b : UInt8, a.toNat + b.toNat ≤ 255 → (c.frameLength (a + b)).nanoseconds =
      max 1 ((c.frameLength a).millis / 2 ^ b.toNat) * 1000000) ∧
    ∀ step : UInt8, (c.frameLength step).nanoseconds =
      halve^[step.toNat] (max 1 c.baseFrameMs.toNat) * 1000000 := by
  refine ⟨c.nanoseconds_frameLength, fun step far => ?_, fun step => ?_, fun a b later => ?_,
    fun a b fits => ?_, fun step => ?_⟩
  · rw [frameLength, frameMs, if_neg (UInt8.not_lt.2 far)]
    rfl
  · rw [nanoseconds_frameLength]
    omega
  · rw [nanoseconds_frameLength, nanoseconds_frameLength]
    have powers : 2 ^ a.toNat ≤ 2 ^ b.toNat :=
      Nat.pow_le_pow_right (by decide) (UInt8.le_iff_toNat_le.1 later)
    have quotients : c.baseFrameMs.toNat / 2 ^ b.toNat ≤ c.baseFrameMs.toNat / 2 ^ a.toNat :=
      Nat.div_le_div_left powers (Nat.two_pow_pos a.toNat)
    omega
  · have sum : (a + b).toNat = a.toNat + b.toNat := by
      rw [UInt8.toNat_add, Nat.mod_eq_of_lt (Nat.lt_succ_of_le fits)]
    rw [nanoseconds_frameLength, millis_frameLength, floor_div_floor, sum]
  · rw [nanoseconds_frameLength, iterate_halve]

theorem frameLength_exact_standard :
    (32 : UInt8) ≤ 40 ∧ CheatConfig.standard.frameLength 40 = .ofMillis 1 ∧
      (4 : UInt8) ≤ 6 ∧ (CheatConfig.standard.frameLength 6).nanoseconds ≤
        (CheatConfig.standard.frameLength 4).nanoseconds ∧
      (4 : UInt8).toNat + (2 : UInt8).toNat ≤ 255 ∧
      (CheatConfig.standard.frameLength (4 + 2)).nanoseconds = max 1 (3 / 4) * 1000000 := by
  obtain ⟨_, far, _, later, sum, _⟩ := frameLength_exact CheatConfig.standard
  exact ⟨by decide, far 40 (by decide), by decide, later 4 6 (by decide), by decide,
    sum 4 2 (by decide)⟩

end CheatCodes.CheatConfig
