import CheatCodes.Proofs.Yaml.Fetch
/-!
Decimal numbers as plain scalars. Main statements: `plainText_toDigits` and
`readUnsigned_toDigits`.
-/
namespace CheatCodes.Yaml

/-! Digits are read as one plain scalar. -/

theorem hasPair_eq_false {first second : Char → Bool} {text : List Char}
    (none : ∀ c ∈ text, first c = false) : hasPair first second text = false := by
  induction text with
  | nil => rfl
  | cons c cs ih =>
    simp only [List.forall_mem_cons] at none
    simp [none.1, ih none.2]

theorem endsWith_eq_false {holds : Char → Bool} {text : List Char}
    (none : ∀ c ∈ text, holds c = false) : endsWith holds text = false := by
  unfold endsWith
  cases last : text.getLast? with
  | none => rfl
  | some c => exact none c (List.mem_of_getLast? last)

theorem ne_of_isDigit {c d : Char} (digit : c.isDigit = true) (other : d.isDigit = false) :
    c ≠ d := by
  intro same
  rw [same, other] at digit
  exact absurd digit (by decide)

theorem isBreak_of_isDigit {c : Char} (digit : c.isDigit = true) : isBreak c = false := by
  have other (d : Char) (plain : d.isDigit = false) : c ≠ d := ne_of_isDigit digit plain
  simp [isBreak, other '\n' rfl, other '\u2028' rfl, other '\u2029' rfl]

theorem isBlank_of_isDigit {c : Char} (digit : c.isDigit = true) : isBlank c = false := by
  have other (d : Char) (plain : d.isDigit = false) : c ≠ d := ne_of_isDigit digit plain
  simp [isBlank, other ' ' rfl, other '\t' rfl]

theorem isWritable_of_isDigit {c : Char} (digit : c.isDigit = true) : isWritable c = true := by
  simp only [Char.isDigit, Bool.and_eq_true, decide_eq_true_eq, ge_iff_le, UInt32.le_iff_toNat_le]
    at digit
  have range : 48 ≤ c.toNat ∧ c.toNat ≤ 57 := digit
  simp [isWritable]
  omega

theorem opensMark_eq_false {text : List Char} (digits : ∀ c ∈ text, c.isDigit = true) :
    opensMark text = false := by
  cases text with
  | nil => rfl
  | cons c cs =>
    have digit : c.isDigit = true := digits c List.mem_cons_self
    have other (d : Char) (plain : d.isDigit = false) : c ≠ d := ne_of_isDigit digit plain
    have outside (ds : List Char) (plain : ds.all (!·.isDigit) = true) :
        ds.contains c = false := by
      rw [Bool.eq_false_iff]
      intro member
      have no := List.all_eq_true.1 plain c (List.contains_iff_mem.1 member)
      rw [digit] at no
      exact absurd no (by decide)
    unfold opensMark
    split
    · rename_i same
      exact absurd (List.cons.inj same).1 (other '-' rfl)
    · rename_i same
      exact absurd (List.cons.inj same).1 (other '.' rfl)
    · rename_i same
      rw [← (List.cons.inj same).1, outside _ rfl, outside _ rfl]
      rfl
    · rfl

theorem plainText_of_digits {text : List Char} (held : text ≠ [])
    (digits : ∀ c ∈ text, c.isDigit = true) : PlainText text where
  writable c member := isWritable_of_isDigit (digits c member)
  oneLine c member := isBreak_of_isDigit (digits c member)
  colon := hasPair_eq_false fun c member => by
    simpa using ne_of_isDigit (d := ':') (digits c member) rfl
  comment := hasPair_eq_false fun c member => by
    simp [isBreak_of_isDigit (digits c member), isBlank_of_isDigit (digits c member)]
  lastColon := endsWith_eq_false fun c member => by
    simpa using ne_of_isDigit (d := ':') (digits c member) rfl
  lastSpace := endsWith_eq_false fun c member => by
    simpa using ne_of_isDigit (d := ' ') (digits c member) rfl
  held
  marks := opensMark_eq_false digits
  first same := absurd (digits _ (List.mem_of_mem_head? same)) (by decide)

theorem isDigit_of_mem {n : Nat} {c : Char} (member : c ∈ Nat.toDigits 10 n) : c.isDigit = true :=
  Nat.isDigit_of_mem_toDigits (by decide) (by decide) member

theorem plainText_toDigits (n : Nat) : PlainText (Nat.toDigits 10 n) :=
  plainText_of_digits (List.length_pos_iff.1 Nat.length_toDigits_pos) fun _ => isDigit_of_mem

/-! Digits are read as their number. -/

theorem hexDigit?_digitChar_of_lt {value : Nat} (small : value < 10) :
    hexDigit? (Nat.digitChar value) = some value := by
  have every : ∀ v : Fin 10, hexDigit? (Nat.digitChar v) = some v.1 := by decide
  exact every ⟨value, small⟩

theorem head?_toDigits {n : Nat} (positive : 0 < n) : (Nat.toDigits 10 n).head? ≠ some '0' := by
  induction n using Nat.strongRecOn with
  | ind n ih =>
    rw [Nat.toDigits_eq_if (by decide)]
    split
    · rename_i small
      have every : ∀ v : Fin 10, 0 < v.1 → Nat.digitChar v ≠ '0' := by decide
      simpa using every ⟨n, small⟩ positive
    · have front := ih (n / 10) (by omega) (by omega)
      obtain ⟨c, cs, digits⟩ := List.exists_cons_of_ne_nil
        (List.length_pos_iff.1 (Nat.length_toDigits_pos (b := 10) (n := n / 10)))
      rw [digits] at front ⊢
      exact front

theorem readBase_toDigits (n : Nat) : readBase 10 (Nat.toDigits 10 n) = some n := by
  have held : (Nat.toDigits 10 n).isEmpty = false := by simp
  simp only [readBase, held, Bool.false_eq_true, if_false]
  induction n using Nat.strongRecOn with
  | ind n ih =>
    rw [Nat.toDigits_eq_if (by decide)]
    split
    · rename_i small
      simp [hexDigit?_digitChar_of_lt small, small]
    · have last : n % 10 < 10 := Nat.mod_lt n (by decide)
      have front := ih (n / 10) (by omega) (by simp)
      rw [List.foldlM_append, front]
      simp [hexDigit?_digitChar_of_lt last, last]
      omega

theorem hasIdleZero_toDigits (n : Nat) : hasIdleZero (Nat.toDigits 10 n) = false := by
  unfold hasIdleZero
  split
  · rename_i same
    exact absurd (isDigit_of_mem (same ▸ List.mem_cons_self)) (by decide)
  · rename_i same
    exact absurd (isDigit_of_mem (same ▸ List.mem_cons_self)) (by decide)
  · rename_i same
    cases Nat.eq_zero_or_pos n with
    | inl zero =>
      rw [zero] at same
      exact absurd (congrArg List.length same) (by simp)
    | inr positive => exact absurd (by rw [same]; rfl) (head?_toDigits positive)
  · rfl

theorem readUnsigned_toDigits (n : Nat) : readUnsigned (Nat.toDigits 10 n) = some n := by
  have unsigned : (Nat.toDigits 10 n).head? ≠ some '+' := fun same =>
    absurd (isDigit_of_mem (List.mem_of_mem_head? same)) (by decide)
  -- the letters of the other notations are no decimal digits
  have other (c : Char) (letter : c.isDigit = false) (rest : List Char) :
      Nat.toDigits 10 n ≠ '0' :: c :: rest := by
    intro same
    have member : c ∈ Nat.toDigits 10 n := by simp [same]
    exact ne_of_isDigit (isDigit_of_mem member) letter rfl
  unfold readUnsigned
  simp only [unsigned, if_false]
  split
  · exact absurd ‹_› (other 'x' rfl _)
  · exact absurd ‹_› (other 'o' rfl _)
  · exact absurd ‹_› (other 'b' rfl _)
  · rw [hasIdleZero_toDigits]
    exact readBase_toDigits n

end CheatCodes.Yaml
