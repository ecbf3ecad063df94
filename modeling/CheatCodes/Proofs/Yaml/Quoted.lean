import CheatCodes.Yaml.Written
/-!
Quoted scalars are read as they were written. Between double quotes every text survives; between
single quotes one whose line ends are Unicode separators with no space beside them. Main
statements: `readDouble_write` and `readSingle_write`.
-/
namespace CheatCodes.Yaml

/-! Hexadecimal digits. -/

theorem hexDigit?_digitChar {value : Nat} (small : value < 16) :
    hexDigit? (Nat.digitChar value).toUpper = some value := by
  have every : ∀ v : Fin 16, hexDigit? (Nat.digitChar v).toUpper = some v.1 := by decide
  exact every ⟨value, small⟩

theorem hexValue?_hexDigits {n code : Nat} (fits : code < Nat.pow 16 n) :
    hexValue? (hexDigits n code) = some code := by
  induction n generalizing code with
  | zero =>
    have zero : code = 0 := Nat.lt_one_iff.1 fits
    rw [zero]
    rfl
  | succ n ih =>
    have front : code / 16 < Nat.pow 16 n :=
      Nat.div_lt_of_lt_mul (Nat.lt_of_lt_of_eq fits (Nat.mul_comm (Nat.pow 16 n) 16))
    have last : code % 16 < 16 := Nat.mod_lt code (by decide)
    have value : hexValue? (hexDigits n (code / 16)) = some (code / 16) := ih front
    unfold hexValue? at value ⊢
    rw [hexDigits, List.foldlM_append, value]
    simp only [Option.bind_eq_bind, Option.bind_some, List.foldlM_cons, List.foldlM_nil,
      hexDigit?_digitChar last, Option.map_some, Option.pure_def, Option.some.injEq]
    omega

theorem ofHex?_hexDigits {n : Nat} {c : Char} (fits : c.toNat < Nat.pow 16 n) :
    ofHex? (hexDigits n c.toNat) = some c := by
  have valid : c.toNat.isValidChar := c.valid
  simp [ofHex?, hexValue?_hexDigits fits, valid]

/-! Double quotes. -/

theorem readDouble_escaped {c : Char} (space : c ≠ ' ') (blanks tail : List Char) :
    readDouble (.inline blanks) (escaped c ++ tail) =
      (readDouble .none tail).map fun r => (blanks ++ c :: r.1, r.2) := by
  unfold escaped
  split
  -- the characters with an escape of their own
  iterate 14 rfl
  dsimp only
  split
  · have word : isBreak c = false ∧ isBlank c = false ∧ c ≠ '\\' := by
      simp [isBreak, isBlank]
      grind
    obtain ⟨unbroken, dark, slash⟩ := word
    rw [List.singleton_append, readDouble]
    · simp [unbroken, dark, slash, Gap.atMargin, Gap.text]
    all_goals grind
  · split
    · rename_i few
      obtain ⟨a, b, digits⟩ : ∃ a b, hexDigits 2 c.toNat = [a, b] := ⟨_, _, rfl⟩
      have back : ofHex? [a, b] = some c := by
        rw [← digits]
        exact ofHex?_hexDigits (Nat.lt_of_le_of_lt few (by decide))
      simp [digits, readDouble, back, Gap.text]
    · split
      · rename_i few
        obtain ⟨a, b, d, e, digits⟩ : ∃ a b d e, hexDigits 4 c.toNat = [a, b, d, e] :=
          ⟨_, _, _, _, rfl⟩
        have back : ofHex? [a, b, d, e] = some c := by
          rw [← digits]
          exact ofHex?_hexDigits (Nat.lt_of_le_of_lt few (by decide))
        simp [digits, readDouble, back, Gap.text]
      · obtain ⟨a, b, d, e, f, g, h, i, digits⟩ :
            ∃ a b d e f g h i, hexDigits 8 c.toNat = [a, b, d, e, f, g, h, i] :=
          ⟨_, _, _, _, _, _, _, _, rfl⟩
        have back : ofHex? [a, b, d, e, f, g, h, i] = some c := by
          rw [← digits]
          exact ofHex?_hexDigits (Nat.lt_of_lt_of_le c.val.toNat_lt (by decide))
        simp [digits, readDouble, back, Gap.text]

theorem readDouble_write (blanks text tail : List Char) :
    readDouble (.inline blanks) (text.flatMap escaped ++ '"' :: tail) =
      some (blanks ++ text, tail) := by
  induction text generalizing blanks with
  | nil => simp [readDouble, Gap.text]
  | cons c text ih =>
    rw [List.flatMap_cons, List.append_assoc]
    by_cases space : c = ' '
    · subst space
      have passed : readDouble (.inline blanks) (' ' :: (text.flatMap escaped ++ '"' :: tail)) =
          readDouble (.inline (blanks ++ [' '])) (text.flatMap escaped ++ '"' :: tail) := rfl
      exact passed.trans (by rw [ih, List.append_assoc, List.singleton_append])
    · have rest : readDouble .none (text.flatMap escaped ++ '"' :: tail) = some (text, tail) :=
        ih []
      rw [readDouble_escaped space, rest, Option.map_some]

/-! Single quotes. -/

structure Single (text : List Char) : Prop where
  writable : ∀ c ∈ text, isWritable c = true
  noNewline : '\n' ∉ text
  trailing : hasTrailingSpace text = false
  leading : hasPair isBreak (· == ' ') text = false

namespace Single

variable {c : Char} {cs : List Char}

theorem tail (h : Single (c :: cs)) : Single cs where
  writable d member := h.writable d (List.mem_cons_of_mem c member)
  noNewline member := h.noNewline (List.mem_cons_of_mem c member)
  trailing := by
    have whole := h.trailing
    simp_all [hasTrailingSpace]
  leading := by
    have whole := h.leading
    simp_all

theorem not_newline (h : Single (c :: cs)) : c ≠ '\n' := by
  rintro rfl
  exact h.noNewline List.mem_cons_self

theorem isBlank_eq (h : Single (c :: cs)) (space : c ≠ ' ') : isBlank c = false :=
  isBlank_of_isWritable (h.writable c List.mem_cons_self) space

theorem break_after_space (h : Single (' ' :: cs)) : cs.head?.any isBreak = false := by
  have trailing := h.trailing
  simp_all [hasTrailingSpace]

theorem space_after_break (h : Single (c :: cs)) (line : isBreak c = true) :
    cs.head? ≠ some ' ' := by
  have leading := h.leading
  cases cs <;> simp_all

end Single

theorem writeSingleRest_break {c : Char} {margin : Bool} (line : isBreak c = true)
    (newline : c ≠ '\n') (depth : Nat) (cs : List Char) :
    writeSingleRest depth margin (c :: cs) = c :: writeSingleRest depth true cs := by
  simp [writeSingleRest, line, newline]

theorem writeSingleRest_word {c : Char} (unbroken : isBreak c = false) (depth : Nat)
    (margin : Bool) (cs : List Char) :
    writeSingleRest depth margin (c :: cs) = (if margin then indentation depth else []) ++
      ((if c == '\'' then ['\'', '\''] else [c]) ++ writeSingleRest depth false cs) := by
  simp [writeSingleRest, unbroken]

theorem Gap.text_lines {breaks : List Char} (noNewline : '\n' ∉ breaks) (folds : Bool)
    (column : Nat) : (Gap.lines folds breaks column).text = breaks := by
  unfold Gap.text
  split <;> simp_all

theorem readSingle_break {c : Char} (line : isBreak c = true) (gap : Gap) (cs : List Char) :
    readSingle gap (c :: cs) = readSingle (gap.newline c) cs := by
  have quote : c ≠ '\'' := by
    rintro rfl
    exact absurd line (by decide)
  rw [readSingle]
  · simp [line]
  all_goals grind

theorem readSingle_indentation (folds : Bool) (breaks : List Char) (column depth : Nat)
    (cs : List Char) :
    readSingle (.lines folds breaks column) (indentation depth ++ cs) =
      readSingle (.lines folds breaks (column + depth)) cs := by
  induction depth generalizing column with
  | zero => rfl
  | succ depth ih =>
    have passed : readSingle (.lines folds breaks column) (' ' :: (indentation depth ++ cs)) =
        readSingle (.lines folds breaks (column + 1)) (indentation depth ++ cs) := rfl
    exact passed.trans (by rw [ih, Nat.add_right_comm, Nat.add_assoc])

theorem readSingle_word {gap : Gap} {c : Char} (unbroken : isBreak c = false)
    (dark : isBlank c = false) (inside : gap.atMargin = false) {rest text tail : List Char}
    (read : readSingle .none rest = some (text, tail)) :
    readSingle gap ((if c == '\'' then ['\'', '\''] else [c]) ++ rest) =
      some (gap.text ++ c :: text, tail) := by
  split
  · rename_i quote
    simp [readSingle, read, beq_iff_eq.1 quote]
  · rename_i quote
    rw [List.singleton_append, readSingle]
    · simp [dark, unbroken, inside, read]
    all_goals grind

theorem readSingle_writeRest {depth : Nat} (nested : 0 < depth) {text tail : List Char}
    (single : Single text) (apart : tail.head? ≠ some '\'') :
    (∀ blanks, (blanks ≠ [] → text.head?.any isBreak = false) →
      readSingle (.inline blanks) (writeSingleRest depth false text ++ tail) =
        some (blanks ++ text, tail)) ∧
    (∀ breaks, '\n' ∉ breaks → text.head? ≠ some ' ' →
      readSingle (.lines true breaks 0) (writeSingleRest depth true text ++ tail) =
        some (breaks ++ text, tail)) := by
  induction text with
  | nil =>
    have closed (gap : Gap) : readSingle gap ('\'' :: tail) = some (gap.text, tail) := by
      rw [readSingle]
      intro cs more
      exact apart (by rw [more]; rfl)
    constructor
    · intro blanks _
      simp [writeSingleRest, closed, Gap.text]
    · intro breaks noNewline _
      simp [writeSingleRest, readSingle_indentation, closed, Gap.text_lines noNewline]
  | cons c cs ih =>
    obtain ⟨midst, start⟩ := ih single.tail
    have word : readSingle .none (writeSingleRest depth false cs ++ tail) = some (cs, tail) :=
      midst [] (by simp)
    constructor
    · intro blanks kept
      by_cases line : isBreak c = true
      · have empty : blanks = [] := by
          cases blanks with
          | nil => rfl
          | cons b bs => simp [line] at kept
        rw [empty, writeSingleRest_break line single.not_newline, List.cons_append,
          readSingle_break line]
        exact start [c] (by simpa using single.not_newline.symm) (single.space_after_break line)
      · rw [writeSingleRest_word (by simpa using line)]
        by_cases space : c = ' '
        · subst space
          exact (midst (blanks ++ [' ']) fun _ => single.break_after_space).trans (by simp)
        · simpa [Gap.text] using
            readSingle_word (by simpa using line) (single.isBlank_eq space) rfl word
    · intro breaks noNewline first
      by_cases line : isBreak c = true
      · have still : '\n' ∉ breaks ++ [c] := by
          simpa using ⟨noNewline, single.not_newline.symm⟩
        rw [writeSingleRest_break line single.not_newline, List.cons_append,
          readSingle_break line]
        exact (start (breaks ++ [c]) still (single.space_after_break line)).trans (by simp)
      · have space : c ≠ ' ' := by simpa using first
        have inside : (Gap.lines true breaks (0 + depth)).atMargin = false := by
          cases depth with
          | zero => omega
          | succ depth => simp [Gap.atMargin]
        rw [writeSingleRest_word (by simpa using line), if_pos rfl, List.append_assoc,
          List.append_assoc, readSingle_indentation,
          readSingle_word (by simpa using line) (single.isBlank_eq space) inside word,
          Gap.text_lines noNewline]

theorem readSingle_write {depth : Nat} (nested : 0 < depth) {text tail : List Char}
    (single : Single text) (apart : tail.head? ≠ some '\'') :
    readSingle .none (writeSingleRest depth false text ++ tail) = some (text, tail) :=
  (readSingle_writeRest nested single apart).1 [] (by simp)

/-! Spellings within one line. -/

/-- Characters within a line that a number of octets of UTF-8 spell. -/
structure Short (n : Nat) (cs : List Char) : Prop where
  octets : (String.ofList cs).utf8ByteSize ≤ n
  inLine : ∀ c ∈ cs, isBreak c = false

namespace Short

theorem nil : Short 0 [] :=
  ⟨by decide, by simp⟩

theorem mono {m n : Nat} {cs : List Char} (short : Short m cs) (le : m ≤ n) : Short n cs :=
  ⟨Nat.le_trans short.octets le, short.inLine⟩

theorem append {m n : Nat} {cs ds : List Char} (front : Short m cs) (back : Short n ds) :
    Short (m + n) (cs ++ ds) where
  octets := by
    rw [String.ofList_append, String.utf8ByteSize_append]
    exact Nat.add_le_add front.octets back.octets
  inLine := List.forall_mem_append.2 ⟨front.inLine, back.inLine⟩

theorem singleton {c : Char} (inLine : isBreak c = false) : Short c.utf8Size [c] where
  octets := by simp
  inLine := by simpa using inLine

theorem cons {n : Nat} {c : Char} {cs : List Char} (inLine : isBreak c = false)
    (rest : Short n cs) : Short (c.utf8Size + n) (c :: cs) :=
  (singleton inLine).append rest

theorem flatMap {n : Nat} {f : Char → List Char} {text : List Char}
    (each : ∀ c ∈ text, Short n (f c)) : Short (n * text.length) (text.flatMap f) := by
  induction text with
  | nil => exact nil
  | cons c cs ih =>
    simp only [List.forall_mem_cons] at each
    rw [List.flatMap_cons]
    have total : n + n * cs.length = n * (c :: cs).length := by
      rw [List.length_cons, Nat.mul_succ, Nat.add_comm]
    exact (each.1.append (ih each.2)).mono (Nat.le_of_eq total)

end Short

theorem short_hexDigits (n code : Nat) : Short n (hexDigits n code) := by
  have every : ∀ v : Fin 16, (Nat.digitChar v).toUpper.utf8Size = 1 ∧
      isBreak (Nat.digitChar v).toUpper = false := by decide
  induction n generalizing code with
  | zero => exact .nil
  | succ n ih =>
    have digit := every ⟨code % 16, Nat.mod_lt code (by decide)⟩
    have last := Short.singleton digit.2
    rw [digit.1] at last
    exact (ih (code / 16)).append last

theorem short_escaped (c : Char) : Short 6 (escaped c) := by
  have digits (mark : Char) (plain : isBreak mark = false) (one : mark.utf8Size = 1) {n : Nat}
      (few : n ≤ 4) : Short 6 ('\\' :: mark :: hexDigits n c.toNat) :=
    (Short.cons (c := '\\') rfl (.cons plain (short_hexDigits n c.toNat))).mono (by
      rw [one, show '\\'.utf8Size = 1 from rfl]
      omega)
  unfold escaped
  split
  iterate 14 exact ⟨by decide, by simp [isBreak]⟩
  dsimp only
  split
  · have unbroken : isBreak c = false := by
      simp [isBreak]
      grind
    exact (Short.singleton unbroken).mono (Nat.le_trans c.utf8Size_le_four (by decide))
  · rename_i unwritable
    split
    · exact digits 'x' rfl rfl (by decide)
    · have low : c.toNat ≤ 0xFFFF := by
        simp only [isWritable, Bool.or_eq_true, decide_eq_true_eq] at unwritable
        omega
      rw [if_pos low]
      exact digits 'u' rfl rfl (by decide)

theorem short_writeDouble (text : List Char) : Short (6 * text.length + 2) (writeDouble text) := by
  have quote : Short 1 ['"'] := ⟨by decide, by simp [isBreak]⟩
  have inner : Short (6 * text.length) (text.flatMap escaped) :=
    .flatMap fun c _ => short_escaped c
  exact (quote.append (inner.append quote)).mono (by omega)

theorem short_writeSingle {text : List Char} (inLine : ∀ c ∈ text, isBreak c = false)
    (depth : Nat) : Short (4 * text.length + 2) (writeSingle depth text) := by
  have quote : Short 1 ['\''] := ⟨by decide, by simp [isBreak]⟩
  have inner : Short (4 * text.length + 1) (writeSingleRest depth false text) := by
    induction text with
    | nil => exact quote
    | cons c cs ih =>
      simp only [List.forall_mem_cons] at inLine
      have first : Short 4 (if c == '\'' then ['\'', '\''] else [c]) := by
        split
        · exact (quote.append quote).mono (by decide)
        · exact (Short.singleton inLine.1).mono c.utf8Size_le_four
      rw [writeSingleRest_word inLine.1]
      exact (first.append (ih inLine.2)).mono (by rw [List.length_cons]; omega)
  exact (quote.append inner).mono (by omega)

end CheatCodes.Yaml
