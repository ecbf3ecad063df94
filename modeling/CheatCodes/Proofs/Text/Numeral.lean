import CheatCodes.Text.Numeral
import Mathlib.Data.List.Induction
/-!
What numerals read as. Digits read as the number that they spell if it stays within the bound, and
a number is spelled by its own digits behind any number of zeros. A plus sign in front changes
nothing, so these two are all that tells the numerals of a number apart.
-/
namespace CheatCodes.Text

theorem digit?_eq_some_iff {c : Char} {d : Nat} :
    digit? c = some d ↔ c.isDigit = true ∧ d = c.toNat - '0'.toNat := by
  have same : ('0' ≤ c ∧ c ≤ '9') ↔ c.isDigit = true := by
    simp [Char.isDigit, Char.le_def]
  unfold digit?
  split
  · rename_i digit
    simp [same.1 digit, eq_comm]
  · rename_i other
    simp [mt same.2 other]

theorem digitChar_of_isDigit {c : Char} (digit : c.isDigit = true) :
    c.toNat - '0'.toNat < 10 ∧ Nat.digitChar (c.toNat - '0'.toNat) = c := by
  simp only [Char.isDigit, Bool.and_eq_true, decide_eq_true_eq, UInt32.le_iff_toNat_le] at digit
  have range : 48 ≤ c.toNat ∧ c.toNat ≤ 57 := digit
  have small : c.toNat - '0'.toNat < 10 := by
    change c.toNat - 48 < 10
    omega
  refine ⟨small, Char.toNat_inj.1 ?_⟩
  rw [Nat.toNat_digitChar_of_lt_ten small]
  change 48 + (c.toNat - 48) = c.toNat
  omega

theorem lt_ten_of_digit? {c : Char} {d : Nat} (h : digit? c = some d) : d < 10 := by
  obtain ⟨digit, rfl⟩ := digit?_eq_some_iff.1 h
  exact (digitChar_of_isDigit digit).1

theorem digit?_digitChar {d : Nat} (small : d < 10) : digit? d.digitChar = some d := by
  rw [digit?_eq_some_iff, Nat.isDigit_digitChar]
  exact ⟨decide_eq_true small, (Nat.toNat_digitChar_sub_48_of_lt_ten small).symm⟩

theorem le_ofDigitChars (cs : List Char) (value : Nat) : value ≤ Nat.ofDigitChars 10 cs value := by
  induction cs generalizing value with
  | nil => simp
  | cons c cs ih =>
    rw [Nat.ofDigitChars_cons]
    have := ih (10 * value + (c.toNat - '0'.toNat))
    omega

theorem readDigits_eq_ok_iff {bound value n : Nat} {past : NumeralError} {cs : List Char}
    (within : value ≤ bound) :
    readDigits bound past value cs = .ok n ↔
      (∀ c ∈ cs, c.isDigit = true) ∧ Nat.ofDigitChars 10 cs value = n ∧ n ≤ bound := by
  induction cs generalizing value with
  | nil =>
    simp only [readDigits, Except.ok.injEq, Nat.ofDigitChars_nil]
    constructor
    · rintro rfl
      exact ⟨by simp, rfl, within⟩
    · exact fun h => h.2.1
  | cons c cs ih =>
    rw [readDigits, List.forall_mem_cons, Nat.ofDigitChars_cons, Nat.mul_comm 10 value]
    cases read : digit? c with
    | none =>
      have other : ¬ c.isDigit = true := fun digit => by
        rw [digit?_eq_some_iff.2 ⟨digit, rfl⟩] at read
        cases read
      simp [other]
    | some d =>
      obtain ⟨digit, rfl⟩ := digit?_eq_some_iff.1 read
      by_cases small : value * 10 + (c.toNat - '0'.toNat) ≤ bound
      · simp only [small, if_true, ih small, digit, true_and]
      · simp only [small, if_false, reduceCtorEq, false_iff, not_and]
        intro _ spelled
        have := le_ofDigitChars cs (value * 10 + (c.toNat - '0'.toNat))
        omega

/-- The numerals of a number: zeros may stand before its digits, and a plus sign before those. -/
def Numeral (n : Nat) (cs : List Char) : Prop :=
  ∃ sign idle, (sign = [] ∨ sign = ['+']) ∧
    cs = sign ++ (List.replicate idle '0' ++ Nat.toDigits 10 n)

theorem isDigit_zeros_toDigits (idle n : Nat) :
    ∀ c ∈ List.replicate idle '0' ++ Nat.toDigits 10 n, c.isDigit = true := by
  intro c member
  rcases List.mem_append.1 member with zero | own
  · rw [List.eq_of_mem_replicate zero]
    rfl
  · exact Nat.isDigit_of_mem_toDigits (by decide) (by decide) own

theorem ofDigitChars_zeros_toDigits (idle n : Nat) :
    Nat.ofDigitChars 10 (List.replicate idle '0' ++ Nat.toDigits 10 n) 0 = n := by
  rw [Nat.ofDigitChars_append, Nat.ofDigitChars_replicate_zero, Nat.mul_zero,
    Nat.ofDigitChars_ten_toDigits]

theorem exists_zeros_toDigits {cs : List Char} (digits : ∀ c ∈ cs, c.isDigit = true)
    (nonempty : cs ≠ []) :
    ∃ idle, cs = List.replicate idle '0' ++ Nat.toDigits 10 (Nat.ofDigitChars 10 cs 0) := by
  induction cs using List.reverseRecOn with
  | nil => exact absurd rfl nonempty
  | append_singleton cs c ih =>
    obtain ⟨small, spelled⟩ := digitChar_of_isDigit (digits c (by simp))
    rw [Nat.ofDigitChars_append, Nat.ofDigitChars_cons, Nat.ofDigitChars_nil]
    by_cases first : cs = []
    · refine ⟨0, ?_⟩
      simp only [first, Nat.ofDigitChars_nil, Nat.mul_zero, Nat.zero_add,
        Nat.toDigits_of_lt_base small, spelled]
      rfl
    · obtain ⟨idle, before⟩ := ih (fun d member => digits d (List.mem_append_left _ member)) first
      generalize Nat.ofDigitChars 10 cs 0 = value at before ⊢
      rcases Nat.eq_zero_or_pos value with rfl | positive
      · -- nothing but zeros so far: the last of them is idle now, too
        refine ⟨idle + 1, ?_⟩
        rw [Nat.mul_zero, Nat.zero_add, Nat.toDigits_of_lt_base small, spelled, before,
          Nat.toDigits_zero, List.replicate_succ']
      · refine ⟨idle, ?_⟩
        rw [← Nat.toDigits_append_toDigits (by decide) positive small,
          Nat.toDigits_of_lt_base small, spelled, ← List.append_assoc, ← before]

theorem readDigits_zero_eq_ok_iff {bound n : Nat} {past : NumeralError} {cs : List Char}
    (nonempty : cs ≠ []) :
    readDigits bound past 0 cs = .ok n ↔
      n ≤ bound ∧ ∃ idle, cs = List.replicate idle '0' ++ Nat.toDigits 10 n := by
  rw [readDigits_eq_ok_iff (Nat.zero_le bound)]
  constructor
  · rintro ⟨digits, rfl, small⟩
    exact ⟨small, exists_zeros_toDigits digits nonempty⟩
  · rintro ⟨small, idle, rfl⟩
    exact ⟨isDigit_zeros_toDigits idle n, ofDigitChars_zeros_toDigits idle n, small⟩

theorem numeral_unsigned {n : Nat} {cs : List Char} (unsigned : cs.head? ≠ some '+') :
    Numeral n cs ↔ ∃ idle, cs = List.replicate idle '0' ++ Nat.toDigits 10 n := by
  constructor
  · rintro ⟨sign, idle, rfl | rfl, rfl⟩
    · exact ⟨idle, rfl⟩
    · exact absurd rfl unsigned
  · rintro ⟨idle, rfl⟩
    exact ⟨[], idle, .inl rfl, rfl⟩

theorem numeral_signed {n : Nat} {cs : List Char} :
    Numeral n ('+' :: cs) ↔ ∃ idle, cs = List.replicate idle '0' ++ Nat.toDigits 10 n := by
  constructor
  · rintro ⟨sign, idle, rfl | rfl, spelled⟩
    · have digit := isDigit_zeros_toDigits idle n '+' (by
        rw [← List.nil_append (_ ++ _), ← spelled]
        exact List.mem_cons_self)
      exact absurd digit (by decide)
    · exact ⟨idle, (List.cons.inj spelled).2⟩
  · rintro ⟨idle, rfl⟩
    exact ⟨['+'], idle, .inr rfl, rfl⟩

theorem readNatural_eq_ok_iff {bound n : Nat} {cs : List Char} :
    readNatural bound cs = .ok n ↔ n ≤ bound ∧ Numeral n cs := by
  unfold readNatural
  split
  · rw [numeral_unsigned (by simp)]
    simp
  · rw [numeral_signed, readDigits_zero_eq_ok_iff (List.cons_ne_nil _ _)]
  · rename_i nonempty longer
    by_cases plus : cs.head? = some '+'
    · obtain ⟨rest, rfl⟩ := List.head?_eq_some_iff.1 plus
      cases rest with
      | nil =>
        rw [numeral_signed]
        simp [readDigits, digit?]
      | cons c rest => exact absurd rfl (longer c rest)
    · rw [numeral_unsigned plus, readDigits_zero_eq_ok_iff nonempty]

end CheatCodes.Text
