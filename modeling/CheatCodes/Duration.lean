/-!
Lengths of time in whole nanoseconds, below 2^64 seconds. They are written as seconds and the
nanoseconds of the last second.
-/
namespace CheatCodes

structure Duration where
  nanoseconds : Nat
  bounded : nanoseconds < 18446744073709551616 * 1000000000
  deriving DecidableEq, Repr

namespace Duration

def secs (d : Duration) : Nat := d.nanoseconds / 1000000000

def nanos (d : Duration) : Nat := d.nanoseconds % 1000000000

def millis (d : Duration) : Nat := d.nanoseconds / 1000000

/-- Nanoseconds past a second carry; too many seconds are refused. -/
def ofParts? (secs nanos : Nat) : Option Duration :=
  if h : secs * 1000000000 + nanos < 18446744073709551616 * 1000000000 then some ⟨_, h⟩ else none

def ofMillis (ms : UInt32) : Duration :=
  ⟨ms.toNat * 1000000, by have := ms.toNat_lt; omega⟩

theorem ofParts?_secs_nanos (d : Duration) : ofParts? d.secs d.nanos = some d := by
  obtain ⟨n, h⟩ := d
  have split : n / 1000000000 * 1000000000 + n % 1000000000 = n := by omega
  simp only [ofParts?, secs, nanos, split]
  exact dif_pos h

@[simp] theorem millis_ofMillis (ms : UInt32) : (ofMillis ms).millis = ms.toNat := by
  simp [ofMillis, millis]

theorem secs_lt (d : Duration) : d.secs < 18446744073709551616 := by
  have := d.bounded
  simp only [secs]
  omega

theorem nanos_lt (d : Duration) : d.nanos < 1000000000 :=
  Nat.mod_lt _ (by decide)

/-! The parts fit in the words that they are saved as. -/

@[simp] theorem toNat_secs (d : Duration) : d.secs.toUInt64.toNat = d.secs := by
  rw [Nat.toUInt64_eq, UInt64.toNat_ofNat', Nat.mod_eq_of_lt d.secs_lt]

@[simp] theorem toNat_nanos (d : Duration) : d.nanos.toUInt32.toNat = d.nanos := by
  have := d.nanos_lt
  rw [Nat.toUInt32_eq, UInt32.toNat_ofNat', Nat.mod_eq_of_lt (by omega)]

end Duration

end CheatCodes
