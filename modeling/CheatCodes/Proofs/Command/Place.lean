import CheatCodes.Command.Place
import CheatCodes.Proofs.Key.Name
import CheatCodes.Proofs.Text.Numeral
import Mathlib.Data.List.TakeWhile
/-!
What reads as a point and what as a deposit. The fields stand between the commas of a text, two for
a point and four for a deposit, each behind and before any blanks; a field is a numeral in bounds or
the name of a resource in letters of either case. A deposit is cut at its commas one after another
and its first two fields are read as a point; no numeral holds a comma, so this comes to the same as
cutting it at all of them.
-/
namespace CheatCodes

theorem bind_eq_ok_iff {ε α β : Type} {e : Except ε α} {f : α → Except ε β} {b : β} :
    e >>= f = .ok b ↔ ∃ a, e = .ok a ∧ f a = .ok b := by
  cases e <;> simp [bind, Except.bind]

theorem map_eq_ok_iff {ε α β : Type} {e : Except ε α} {f : α → β} {b : β} :
    e.map f = .ok b ↔ ∃ a, e = .ok a ∧ f a = b := by
  cases e <;> simp [Except.map]

theorem mapError_eq_ok_iff {ε ε' α : Type} {e : Except ε α} {f : ε → ε'} {a : α} :
    e.mapError f = .ok a ↔ e = .ok a := by
  cases e <;> simp [Except.mapError]

namespace Text

/-- One ASCII digit or more, of the number's value, with or without a plus sign in front. -/
def Spells (n : Nat) (cs : List Char) : Prop :=
  ∃ sign digits, (sign = [] ∨ sign = ['+']) ∧ cs = sign ++ digits ∧ digits ≠ [] ∧
    (∀ c ∈ digits, c.isDigit = true) ∧ Nat.ofDigitChars 10 digits 0 = n

theorem spells_iff_numeral {n : Nat} {cs : List Char} : Spells n cs ↔ Numeral n cs := by
  constructor
  · rintro ⟨sign, digits, signed, rfl, nonempty, every, rfl⟩
    obtain ⟨idle, spelled⟩ := exists_zeros_toDigits every nonempty
    exact ⟨sign, idle, signed, congrArg (sign ++ ·) spelled⟩
  · rintro ⟨sign, idle, signed, rfl⟩
    exact ⟨sign, _, signed, rfl, by simp [Nat.toDigits_ne_nil], isDigit_zeros_toDigits idle n,
      ofDigitChars_zeros_toDigits idle n⟩

theorem spells_toDigits (n : Nat) : Spells n (Nat.toDigits 10 n) :=
  spells_iff_numeral.2 ⟨[], 0, .inl rfl, rfl⟩

theorem map_readNatural_eq_ok_iff {α : Type} {bound : Nat} {ofNat : Nat → α} {toNat : α → Nat}
    (small : ∀ v, toNat v ≤ bound) (toNat_ofNat : ∀ n, n ≤ bound → toNat (ofNat n) = n)
    (ofNat_toNat : ∀ v, ofNat (toNat v) = v) {cs : List Char} {v : α} :
    (readNatural bound cs).map ofNat = .ok v ↔ Spells (toNat v) cs := by
  rw [map_eq_ok_iff, spells_iff_numeral]
  constructor
  · rintro ⟨n, read, rfl⟩
    obtain ⟨low, spelled⟩ := readNatural_eq_ok_iff.1 read
    rwa [toNat_ofNat n low]
  · intro spelled
    exact ⟨toNat v, readNatural_eq_ok_iff.2 ⟨small v, spelled⟩, ofNat_toNat v⟩

theorem readUInt16_eq_ok_iff {cs : List Char} {v : UInt16} :
    readUInt16 cs = .ok v ↔ Spells v.toNat cs :=
  map_readNatural_eq_ok_iff (fun v => Nat.le_of_lt_succ v.toNat_lt)
    (fun _ low => UInt16.toNat_ofNat_of_lt' (Nat.lt_succ_of_le low)) fun _ => UInt16.ofNat_toNat

theorem readUInt8_eq_ok_iff {cs : List Char} {v : UInt8} :
    readUInt8 cs = .ok v ↔ Spells v.toNat cs :=
  map_readNatural_eq_ok_iff (fun v => Nat.le_of_lt_succ v.toNat_lt)
    (fun _ low => UInt8.toNat_ofNat_of_lt' (Nat.lt_succ_of_le low)) fun _ => UInt8.ofNat_toNat

/-! Blanks around a field. -/

theorem mem_trim_of_mem {c : Char} (dark : isBlank c = false) {cs : List Char} (h : c ∈ cs) :
    c ∈ trim cs := by
  have kept {text : List Char} (member : c ∈ text) : c ∈ text.dropWhile isBlank := by
    rw [← List.takeWhile_append_dropWhile (p := isBlank) (l := text), List.mem_append] at member
    refine member.resolve_left fun cut => ?_
    rw [List.mem_takeWhile_imp cut] at dark
    cases dark
  exact List.mem_reverse.2 (kept (List.mem_reverse.2 (kept h)))

theorem dropWhile_of_dark {cs : List Char} (dark : ∀ c ∈ cs, isBlank c = false) :
    cs.dropWhile isBlank = cs := by
  cases cs with
  | nil => rfl
  | cons c cs => rw [List.dropWhile_cons, dark c List.mem_cons_self]; rfl

structure Padding where
  before : List Char
  after : List Char
  blank_before : ∀ c ∈ before, isBlank c = true
  blank_after : ∀ c ∈ after, isBlank c = true

def Padding.around (pad : Padding) (field : List Char) : List Char :=
  pad.before ++ (field ++ pad.after)

theorem Padding.trim_around (pad : Padding) {field : List Char}
    (dark : ∀ c ∈ field, isBlank c = false) : trim (pad.around field) = field := by
  have front : (pad.around field).dropWhile isBlank = (field ++ pad.after).dropWhile isBlank :=
    List.dropWhile_append_of_pos pad.blank_before
  have back : ((field ++ pad.after).dropWhile isBlank).reverse.dropWhile isBlank =
      field.reverse := by
    rw [List.dropWhile_append, dropWhile_of_dark dark]
    split
    · rename_i empty
      rw [List.dropWhile_eq_nil_iff.2 pad.blank_after, List.isEmpty_iff.1 empty]
      rfl
    · rw [List.reverse_append, List.dropWhile_append_of_pos fun c member =>
        pad.blank_after c (List.mem_reverse.1 member)]
      exact dropWhile_of_dark fun c member => dark c (List.mem_reverse.1 member)
  rw [trim, front, back, List.reverse_reverse]

theorem Padding.comma_not_mem_around (pad : Padding) {field : List Char} (plain : ',' ∉ field) :
    ',' ∉ pad.around field := by
  have dark : ¬ isBlank ',' = true := by decide
  simp only [Padding.around, List.mem_append, not_or]
  exact ⟨fun member => dark (pad.blank_before _ member), plain, fun member =>
    dark (pad.blank_after _ member)⟩

/-! Numerals hold neither commas nor blanks. -/

theorem Spells.comma_not_mem {n : Nat} {field : List Char} (h : Spells n (trim field)) :
    ',' ∉ field := by
  intro member
  obtain ⟨sign, digits, signed, cut, _, every, _⟩ := h
  have kept : ',' ∈ sign ++ digits := cut ▸ mem_trim_of_mem (by decide) member
  rcases List.mem_append.1 kept with front | digit
  · rcases signed with rfl | rfl
    · cases front
    · exact absurd front (by decide)
  · exact absurd (every _ digit) (by decide)

theorem isBlank_of_isDigit {c : Char} (digit : c.isDigit = true) : isBlank c = false := by
  simp only [Char.isDigit, Bool.and_eq_true, decide_eq_true_eq, UInt32.le_iff_toNat_le] at digit
  have range : 48 ≤ c.toNat ∧ c.toNat ≤ 57 := digit
  rw [Bool.eq_false_iff]
  intro blank
  simp only [isBlank, Bool.or_eq_true, Bool.and_eq_true, decide_eq_true_eq, beq_iff_eq] at blank
  omega

theorem dark_toDigits (n : Nat) : ∀ c ∈ Nat.toDigits 10 n, isBlank c = false :=
  fun _ member => isBlank_of_isDigit (Nat.isDigit_of_mem_toDigits (by decide) (by decide) member)

theorem comma_not_mem_toDigits (n : Nat) : ',' ∉ Nat.toDigits 10 n := fun member =>
  absurd (Nat.isDigit_of_mem_toDigits (by decide) (by decide) member) (by decide)

theorem Padding.spells_around (pad : Padding) (n : Nat) :
    Spells n (trim (pad.around (Nat.toDigits 10 n))) := by
  rw [pad.trim_around (dark_toDigits n)]
  exact spells_toDigits n

end Text

/-! The text up to a comma. -/

open Text (Spells Padding trim)

theorem bne_comma_of_not_mem {x : List Char} (plain : ',' ∉ x) : ∀ c ∈ x, (c != ',') = true := by
  intro c member
  rw [bne_iff_ne]
  rintro rfl
  exact plain member

theorem splitComma_of_not_mem {x : List Char} (plain : ',' ∉ x) (rest : List Char) :
    splitComma (x ++ ',' :: rest) = some (x, rest) := by
  have others := bne_comma_of_not_mem plain
  rw [splitComma, List.dropWhile_append_of_pos others, List.takeWhile_append_of_pos others]
  simp

theorem splitComma_cases (text : List Char) :
    (splitComma text = none ∧ ',' ∉ text) ∨
      ∃ x rest, splitComma text = some (x, rest) ∧ ',' ∉ x ∧ text = x ++ ',' :: rest := by
  by_cases comma : ',' ∈ text
  · obtain ⟨x, rest, rfl, plain⟩ := List.eq_append_cons_of_mem comma
    exact .inr ⟨x, rest, splitComma_of_not_mem plain rest, plain, rfl⟩
  · refine .inl ⟨?_, comma⟩
    rw [splitComma, List.dropWhile_eq_nil_iff.2 (bne_comma_of_not_mem comma)]

theorem eq_append_of_splitComma {text x rest : List Char} (cut : splitComma text = some (x, rest)) :
    ',' ∉ x ∧ text = x ++ ',' :: rest := by
  rcases splitComma_cases text with ⟨whole, _⟩ | ⟨x', rest', cut', plain, joined⟩
  · rw [whole] at cut
    cases cut
  · rw [cut'] at cut
    cases cut
    exact ⟨plain, joined⟩

theorem splitOn_eq_cons_iff {text x : List Char} {fields : List (List Char)}
    (more : fields ≠ []) :
    text.splitOn ',' = x :: fields ↔
      ∃ rest, splitComma text = some (x, rest) ∧ rest.splitOn ',' = fields := by
  rcases splitComma_cases text with ⟨whole, plain⟩ | ⟨x', rest, cut, plain, rfl⟩
  · rw [List.splitOn_eq_singleton plain, whole]
    constructor
    · intro single
      exact absurd (List.cons.inj single).2.symm more
    · rintro ⟨_, cut, _⟩
      cases cut
  · rw [List.splitOn_append_cons_self_of_not_mem plain, cut, List.cons.injEq]
    constructor
    · rintro ⟨rfl, others⟩
      exact ⟨rest, rfl, others⟩
    · rintro ⟨_, same, others⟩
      cases same
      exact ⟨rfl, others⟩

theorem splitOn_eq_singleton_iff {text field : List Char} :
    text.splitOn ',' = [field] ↔ text = field ∧ ',' ∉ text := by
  constructor
  · intro single
    rcases splitComma_cases text with ⟨_, plain⟩ | ⟨x, rest, _, plain, rfl⟩
    · rw [List.splitOn_eq_singleton plain] at single
      exact ⟨(List.cons.inj single).1, plain⟩
    · rw [List.splitOn_append_cons_self_of_not_mem plain] at single
      exact absurd (List.cons.inj single).2 (List.splitOn_ne_nil _ _)
  · rintro ⟨rfl, plain⟩
    exact List.splitOn_eq_singleton plain

/-! Points. -/

/-- The text has two fields between its commas, which spell the coordinates. -/
def Point.IsTyped (pt : Point) (text : List Char) : Prop :=
  ∃ x y, text.splitOn ',' = [x, y] ∧ Spells pt.x.toNat (trim x) ∧ Spells pt.y.toNat (trim y)

theorem Point.read_of_splitComma {text x y : List Char} (cut : splitComma text = some (x, y))
    {pt : Point} :
    Point.read text = .ok pt ↔ Spells pt.x.toNat (trim x) ∧ Spells pt.y.toNat (trim y) := by
  simp only [Point.read, cut, bind_eq_ok_iff, mapError_eq_ok_iff, Text.readUInt16_eq_ok_iff]
  constructor
  · rintro ⟨x, spelledX, y, spelledY, made⟩
    cases made
    exact ⟨spelledX, spelledY⟩
  · rintro ⟨spelledX, spelledY⟩
    exact ⟨pt.x, spelledX, pt.y, spelledY, rfl⟩

theorem Point.read_eq_ok_iff {text : List Char} {pt : Point} :
    Point.read text = .ok pt ↔ pt.IsTyped text := by
  constructor
  · intro read
    rcases splitComma_cases text with ⟨whole, _⟩ | ⟨x, y, cut, _⟩
    · rw [Point.read, whole] at read
      cases read
    · obtain ⟨spelledX, spelledY⟩ := (Point.read_of_splitComma cut).1 read
      have last := splitOn_eq_singleton_iff.2 ⟨rfl, spelledY.comma_not_mem⟩
      exact ⟨x, y, (splitOn_eq_cons_iff (by simp)).2 ⟨y, cut, last⟩, spelledX, spelledY⟩
  · rintro ⟨x, y, fields, spelledX, spelledY⟩
    obtain ⟨rest, cut, last⟩ := (splitOn_eq_cons_iff (by simp)).1 fields
    rw [(splitOn_eq_singleton_iff.1 last).1] at cut
    exact (Point.read_of_splitComma cut).2 ⟨spelledX, spelledY⟩

/-! Deposits. -/

def ResourceKind.IsNamed (kind : ResourceKind) (text : List Char) : Prop :=
  kind ≠ .nothing ∧ Text.Alike text (Named.name kind).toList

instance (kind : ResourceKind) (text : List Char) : Decidable (kind.IsNamed text) :=
  inferInstanceAs (Decidable (_ ∧ _))

theorem ResourceKind.ofLower?_eq_some_iff {text : List Char} {kind : ResourceKind} :
    ResourceKind.ofLower? (text.map Char.toLower) = some kind ↔ kind.IsNamed text := by
  constructor
  · intro found
    unfold ofLower? at found
    split at found
    case h_7 => cases found
    all_goals
      rename_i spelled
      cases found
      exact ⟨by decide, (Text.eq_toList_of_ofList_eq spelled).trans (by decide)⟩
  · rintro ⟨some, alike⟩
    rw [alike]
    cases kind with
    | nothing => exact absurd rfl some
    | iron | gold | coal | granite | water | fish => decide

/-- The text has four fields between its commas: a point's two, the resource and its amount. -/
def Deposit.IsTyped (d : Deposit) (text : List Char) : Prop :=
  ∃ x y kind amount, text.splitOn ',' = [x, y, kind, amount] ∧
    Spells d.pt.x.toNat (trim x) ∧ Spells d.pt.y.toNat (trim y) ∧
    d.resource.kind.IsNamed (trim kind) ∧ Spells d.resource.amount.toNat (trim amount)

theorem Deposit.read_of_splitComma {text x others y more kind amount : List Char}
    (first : splitComma text = some (x, others)) (second : splitComma others = some (y, more))
    (third : splitComma more = some (kind, amount)) {d : Deposit} :
    Deposit.read text = .ok d ↔
      Spells d.pt.x.toNat (trim x) ∧ Spells d.pt.y.toNat (trim y) ∧
        d.resource.kind.IsNamed (trim kind) ∧ Spells d.resource.amount.toNat (trim amount) := by
  have point {pt : Point} : Point.read (x ++ ',' :: y) = .ok pt ↔
      Spells pt.x.toNat (trim x) ∧ Spells pt.y.toNat (trim y) :=
    Point.read_of_splitComma (splitComma_of_not_mem (eq_append_of_splitComma first).1 y)
  simp only [Deposit.read, first, second, third, bind_eq_ok_iff, point]
  constructor
  · rintro ⟨pt, ⟨spelledX, spelledY⟩, read⟩
    split at read
    · cases read
    · rename_i kind named
      simp only [bind_eq_ok_iff, mapError_eq_ok_iff, Text.readUInt8_eq_ok_iff] at read
      obtain ⟨amount, spelled, made⟩ := read
      cases made
      exact ⟨spelledX, spelledY, ResourceKind.ofLower?_eq_some_iff.1 named, spelled⟩
  · rintro ⟨spelledX, spelledY, named, spelled⟩
    refine ⟨d.pt, ⟨spelledX, spelledY⟩, ?_⟩
    rw [ResourceKind.ofLower?_eq_some_iff.2 named]
    simp only [bind_eq_ok_iff, mapError_eq_ok_iff, Text.readUInt8_eq_ok_iff]
    exact ⟨d.resource.amount, spelled, rfl⟩

theorem Deposit.exists_cuts_of_read {text : List Char} {d : Deposit}
    (read : Deposit.read text = .ok d) :
    ∃ x others y more kind amount, splitComma text = some (x, others) ∧
      splitComma others = some (y, more) ∧ splitComma more = some (kind, amount) := by
  unfold Deposit.read at read
  split at read
  · cases read
  rename_i x others first
  split at read
  · cases read
  rename_i y more second
  obtain ⟨pt, _, read⟩ := bind_eq_ok_iff.1 read
  split at read
  · cases read
  rename_i kind amount third
  exact ⟨x, others, y, more, kind, amount, first, second, third⟩

theorem Deposit.read_eq_ok_iff {text : List Char} {d : Deposit} :
    Deposit.read text = .ok d ↔ d.IsTyped text := by
  constructor
  · intro read
    obtain ⟨x, others, y, more, kind, amount, first, second, third⟩ := exists_cuts_of_read read
    obtain ⟨spelledX, spelledY, named, spelled⟩ :=
      (Deposit.read_of_splitComma first second third).1 read
    -- Put together from the last field on: it is the one that might still hold a comma.
    have last := splitOn_eq_singleton_iff.2 ⟨rfl, spelled.comma_not_mem⟩
    have two := (splitOn_eq_cons_iff (by simp)).2 ⟨amount, third, last⟩
    have three := (splitOn_eq_cons_iff (by simp)).2 ⟨more, second, two⟩
    exact ⟨x, y, kind, amount, (splitOn_eq_cons_iff (by simp)).2 ⟨others, first, three⟩, spelledX,
      spelledY, named, spelled⟩
  · rintro ⟨x, y, kind, amount, fields, spelled⟩
    obtain ⟨others, first, fields⟩ := (splitOn_eq_cons_iff (by simp)).1 fields
    obtain ⟨more, second, fields⟩ := (splitOn_eq_cons_iff (by simp)).1 fields
    obtain ⟨rest, third, last⟩ := (splitOn_eq_cons_iff (by simp)).1 fields
    rw [(splitOn_eq_singleton_iff.1 last).1] at third
    exact (Deposit.read_of_splitComma first second third).2 spelled

/-! Points and deposits as they are typed. -/

def Point.typed (pt : Point) (padX padY : Padding) : List Char :=
  padX.around (Nat.toDigits 10 pt.x.toNat) ++ ',' :: padY.around (Nat.toDigits 10 pt.y.toNat)

def Deposit.typed (d : Deposit) (padX padY padKind padAmount : Padding) : List Char :=
  d.pt.typed padX padY ++ ',' :: (padKind.around (Named.name d.resource.kind).toList ++
    ',' :: padAmount.around (Nat.toDigits 10 d.resource.amount.toNat))

theorem splitOn_around_append (pad : Padding) {field : List Char} (plain : ',' ∉ field)
    (rest : List Char) :
    (pad.around field ++ ',' :: rest).splitOn ',' = pad.around field :: rest.splitOn ',' :=
  List.splitOn_append_cons_self_of_not_mem (pad.comma_not_mem_around plain) rest

theorem Point.isTyped_typed (pt : Point) (padX padY : Padding) :
    pt.IsTyped (pt.typed padX padY) := by
  refine ⟨_, _, ?_, padX.spells_around pt.x.toNat, padY.spells_around pt.y.toNat⟩
  rw [Point.typed, splitOn_around_append padX (Text.comma_not_mem_toDigits _),
    List.splitOn_eq_singleton (padY.comma_not_mem_around (Text.comma_not_mem_toDigits _))]

theorem ResourceKind.dark_name (kind : ResourceKind) :
    ∀ c ∈ (Named.name kind).toList, Text.isBlank c = false ∧ c ≠ ',' := by
  have every : (Named.name kind).toList.all (fun c => !Text.isBlank c && c != ',') = true := by
    cases kind <;> decide
  intro c member
  simpa using List.all_eq_true.1 every c member

theorem Deposit.isTyped_typed {d : Deposit} (some : d.resource.kind ≠ .nothing)
    (padX padY padKind padAmount : Padding) :
    d.IsTyped (d.typed padX padY padKind padAmount) := by
  have dark := d.resource.kind.dark_name
  have plain : ',' ∉ (Named.name d.resource.kind).toList := fun member => (dark _ member).2 rfl
  have named : d.resource.kind.IsNamed
      (trim (padKind.around (Named.name d.resource.kind).toList)) := by
    rw [padKind.trim_around fun c member => (dark c member).1]
    exact ⟨some, rfl⟩
  refine ⟨_, _, _, _, ?_, padX.spells_around d.pt.x.toNat, padY.spells_around d.pt.y.toNat, named,
    padAmount.spells_around d.resource.amount.toNat⟩
  rw [Deposit.typed, Point.typed, List.append_assoc, List.cons_append,
    splitOn_around_append padX (Text.comma_not_mem_toDigits _),
    splitOn_around_append padY (Text.comma_not_mem_toDigits _),
    splitOn_around_append padKind plain, List.splitOn_eq_singleton
      (padAmount.comma_not_mem_around (Text.comma_not_mem_toDigits _))]

/-- Points and deposits are read from just the texts that have them between their commas, so those
that are typed with any blanks are read back. -/
theorem Deposit.read_exact :
    (∀ text pt, Point.read text = .ok pt ↔ pt.IsTyped text) ∧
    (∀ text d, Deposit.read text = .ok d ↔ d.IsTyped text) ∧
    (∀ (pt : Point) padX padY, Point.read (pt.typed padX padY) = .ok pt) ∧
    ∀ d : Deposit, d.resource.kind ≠ .nothing → ∀ padX padY padKind padAmount,
      Deposit.read (d.typed padX padY padKind padAmount) = .ok d :=
  ⟨fun _ _ => Point.read_eq_ok_iff, fun _ _ => Deposit.read_eq_ok_iff,
    fun pt padX padY => Point.read_eq_ok_iff.2 (pt.isTyped_typed padX padY),
    fun _ some padX padY padKind padAmount =>
      Deposit.read_eq_ok_iff.2 (Deposit.isTyped_typed some padX padY padKind padAmount)⟩

theorem Deposit.read_exact_gold :
    let pad : Padding :=
      ⟨[' '], ['\u3000'], List.forall_mem_singleton.2 rfl, List.forall_mem_singleton.2 rfl⟩
    let d : Deposit := ⟨⟨12, 30⟩, ⟨.gold, 5⟩⟩
    d.resource.kind ≠ .nothing ∧
      d.typed pad pad pad pad = " 12\u3000, 30\u3000, Gold\u3000, 5\u3000".toList ∧
      Deposit.read (d.typed pad pad pad pad) = .ok d := by
  intro pad d
  exact ⟨by decide, by decide, Deposit.read_exact.2.2.2 d (by decide) pad pad pad pad⟩

end CheatCodes
