import CheatCodes.Yaml.Written
/-!
Plain scalars are read as they were written. They end at the colon of a key or where the next line
stands left of their block. Main statements: `readPlain_key` and `readPlain_line`.
-/
namespace CheatCodes.Yaml

/-- A token can begin here: no gap, no comment and no byte order mark does. -/
def startsToken : List Char → Bool
  | [] => true
  | c :: _ => !(isBreak c || isBlank c || c == '#' || c == byteOrderMark)

theorem startsToken_append {text : List Char} (held : text ≠ []) (tail : List Char) :
    startsToken (text ++ tail) = startsToken text := by
  cases text with
  | nil => exact absurd rfl held
  | cons c cs => rfl

/-- A text within one line that nothing in it ends. -/
structure Plain (text : List Char) : Prop where
  writable : ∀ c ∈ text, isWritable c = true
  oneLine : ∀ c ∈ text, isBreak c = false
  colon : hasPair (· == ':') (fun c => isBlank c || isBreak c) text = false
  comment : hasPair (fun c => isBlank c || isBreak c) (· == '#') text = false
  lastColon : endsWith (· == ':') text = false
  lastSpace : endsWith (· == ' ') text = false

namespace Plain

variable {c : Char} {cs : List Char}

theorem tail (h : Plain (c :: cs)) : Plain cs where
  writable d member := h.writable d (List.mem_cons_of_mem c member)
  oneLine d member := h.oneLine d (List.mem_cons_of_mem c member)
  colon := by
    have whole := h.colon
    simp_all
  comment := by
    have whole := h.comment
    simp_all
  lastColon := by
    have whole := h.lastColon
    cases cs <;> simp_all [endsWith]
  lastSpace := by
    have whole := h.lastSpace
    cases cs <;> simp_all [endsWith]

theorem isBreak_eq (h : Plain (c :: cs)) : isBreak c = false :=
  h.oneLine c List.mem_cons_self

theorem isBlank_eq (h : Plain (c :: cs)) (space : c ≠ ' ') : isBlank c = false :=
  isBlank_of_isWritable (h.writable c List.mem_cons_self) space

theorem after_space (h : Plain (' ' :: cs)) : cs ≠ [] ∧ cs.head? ≠ some '#' := by
  have comment := h.comment
  have lastSpace := h.lastSpace
  cases cs <;> simp_all [isBlank]

theorem after_colon (h : Plain (':' :: cs)) (tail : List Char) : endsWord (cs ++ tail) = false := by
  have colon := h.colon
  have lastColon := h.lastColon
  cases cs <;> simp_all [endsWord]

end Plain

variable {level : Nat}

theorem readPlain_space (inFlow : Bool) (blanks cs : List Char) :
    readPlain inFlow level (.inline blanks) (' ' :: cs) =
      readPlain inFlow level (.inline (blanks ++ [' '])) cs := by
  simp [readPlain, isBreak, isBlank, Gap.blank]

theorem readPlain_word {c : Char} {cs : List Char} {blanks : List Char}
    (unbroken : isBreak c = false) (dark : isBlank c = false)
    (comment : blanks ≠ [] → c ≠ '#') (colon : c = ':' → endsWord cs = false) :
    readPlain false level (.inline blanks) (c :: cs) =
      (readPlain false level .none cs).map fun s => { s with text := blanks ++ c :: s.text } := by
  have apart : (c == '#' && Gap.inline blanks != .none) = false := by
    by_cases empty : blanks = []
    · simp [empty, Gap.none]
    · simp [comment empty]
  have inside : (c == ':' && endsWord cs) = false := by
    by_cases mark : c = ':'
    · simp [colon mark]
    · simp [mark]
  simp [readPlain, unbroken, dark, apart, inside, Gap.endsLeftOf, Gap.atMargin, Gap.text]

theorem readPlain_append {text tail rest : List Char} {ended : Bool} (plain : Plain text)
    (stop : readPlain false level .none tail = some ⟨[], ended, rest⟩) (blanks : List Char)
    (joined : blanks ≠ [] → text ≠ [] ∧ text.head? ≠ some '#') :
    readPlain false level (.inline blanks) (text ++ tail) = some ⟨blanks ++ text, ended, rest⟩ := by
  induction text generalizing blanks with
  | nil =>
    have empty : blanks = [] := Decidable.byContradiction fun kept => (joined kept).1 rfl
    rw [empty]
    exact stop
  | cons c cs ih =>
    rw [List.cons_append]
    by_cases space : c = ' '
    · subst space
      rw [readPlain_space, ih plain.tail _ fun _ => plain.after_space, List.append_assoc,
        List.singleton_append]
    · have read : readPlain false level .none (cs ++ tail) = some ⟨cs, ended, rest⟩ :=
        ih plain.tail [] (by simp)
      have comment : blanks ≠ [] → c ≠ '#' := fun kept => by simpa using (joined kept).2
      have colon : c = ':' → endsWord (cs ++ tail) = false := by
        intro mark
        subst mark
        exact plain.after_colon tail
      rw [readPlain_word plain.isBreak_eq (plain.isBlank_eq space) comment colon, read,
        Option.map_some]

/-! Where a plain scalar ends. -/

theorem readPlain_colon {rest : List Char} (ends : endsWord rest = true) :
    readPlain false level .none (':' :: rest) = some ⟨[], false, ':' :: rest⟩ := by
  simp [readPlain, isBreak, isBlank, ends, Gap.endsLeftOf, Gap.atMargin, Gap.none, Gap.hasLines]

theorem readPlain_indentation {folds : Bool} {breaks next : List Char} {column depth : Nat}
    (left : column + depth < level) (token : startsToken next = true) :
    readPlain false level (.lines folds breaks column) (indentation depth ++ next) =
      some ⟨[], true, next⟩ := by
  induction depth generalizing column with
  | zero =>
    have outside : (Gap.lines folds breaks column).endsLeftOf level = true := by
      simpa [Gap.endsLeftOf] using left
    cases next with
    | nil => rfl
    | cons c cs =>
      simp only [startsToken, Bool.not_eq_true', Bool.or_eq_false_iff] at token
      simp [indentation, readPlain, token, outside, Gap.hasLines]
  | succ depth ih =>
    have passed : readPlain false level (.lines folds breaks column)
        (' ' :: (indentation depth ++ next)) =
          readPlain false level (.lines folds breaks (column + 1)) (indentation depth ++ next) := by
      simp [readPlain, isBreak, isBlank, Gap.blank]
    exact passed.trans (ih (by omega))

theorem readPlain_newline {next : List Char} {depth : Nat} (left : depth < level)
    (token : startsToken next = true) :
    readPlain false level .none ('\n' :: (indentation depth ++ next)) = some ⟨[], true, next⟩ := by
  have passed : readPlain false level .none ('\n' :: (indentation depth ++ next)) =
      readPlain false level (.lines true ['\n'] 0) (indentation depth ++ next) := by
    simp [readPlain, isBreak, Gap.newline, Gap.none]
  exact passed.trans (readPlain_indentation (by omega) token)

theorem readPlain_key {text rest : List Char} (plain : Plain text) (ends : endsWord rest = true) :
    readPlain false level .none (text ++ ':' :: rest) = some ⟨text, false, ':' :: rest⟩ :=
  readPlain_append plain (readPlain_colon ends) [] (by simp)

theorem readPlain_line {text next : List Char} {depth : Nat} (plain : Plain text)
    (left : depth < level) (token : startsToken next = true) :
    readPlain false level .none (text ++ '\n' :: (indentation depth ++ next)) =
      some ⟨text, true, next⟩ :=
  readPlain_append plain (readPlain_newline left token) [] (by simp)

/-! Where a plain scalar begins. -/

def opensMark (text : List Char) : Bool :=
  match text with
  | '-' :: '-' :: '-' :: _ | '.' :: '.' :: '.' :: _ => true
  | c :: rest =>
    ['#', ',', '[', ']', '\x7b', '\x7d', '&', '*', '!', '|', '>', '\'', '"', '%', '@',
      '\x60'].contains c || (['-', '?', ':'].contains c && endsWord rest)
  | [] => false

structure PlainText (text : List Char) : Prop extends Plain text where
  held : text ≠ []
  marks : opensMark text = false
  first : text.head? ≠ some ' '

theorem plainText_of_allowsPlain {text : List Char} (held : text ≠ [])
    (allowed : allowsPlain text = true) : PlainText text := by
  simp only [allowsPlain, Bool.and_eq_true, List.all_eq_true, Bool.not_eq_true', hasLines,
    List.any_eq_false, Bool.not_eq_true, bne_iff_ne] at allowed
  obtain ⟨⟨⟨⟨writable, oneLine⟩, marks⟩, first⟩, last⟩ := allowed
  simp only [hasMarks, Bool.or_eq_false_iff] at marks
  exact ⟨⟨writable, oneLine, marks.1.1.2, marks.2, marks.1.2, last⟩, held, marks.1.1.1, first⟩

/-- What may follow a plain scalar: the colon of a key or a line end. -/
def stopsPlain (tail : List Char) : Prop :=
  ∃ c cs, tail = c :: cs ∧ (c = ':' ∨ c = '\n')

theorem startsDocument_append {text tail : List Char} (held : text ≠ [])
    (marks : opensMark text = false) (stop : stopsPlain tail) :
    startsDocument (text ++ tail) = false := by
  obtain ⟨t, ts, rfl, stop⟩ := stop
  have three (m : Char) (mark : m = '-' ∨ m = '.') (cs : List Char) :
      text ++ t :: ts ≠ m :: m :: m :: cs := by
    intro same
    match text, held with
    | [a], _ => 
      simp at same
      grind
    | [a, b], _ =>
      simp at same
      grind
    | a :: b :: c :: rest, _ =>
      simp at same
      grind [opensMark]
  unfold startsDocument
  split
  · exact absurd ‹_› (three '-' (.inl rfl) _)
  · exact absurd ‹_› (three '.' (.inr rfl) _)
  · rfl

theorem opensMark_cons {c : Char} {cs : List Char} (marks : opensMark (c :: cs) = false) :
    ['#', ',', '[', ']', '\x7b', '\x7d', '&', '*', '!', '|', '>', '\'', '"', '%', '@',
      '\x60'].contains c = false ∧ (['-', '?', ':'].contains c = true → endsWord cs = false) := by
  unfold opensMark at marks
  split at marks
  · exact absurd marks (by decide)
  · exact absurd marks (by decide)
  · rename_i same
    obtain ⟨rfl, rfl⟩ := List.cons.inj same
    rw [Bool.or_eq_false_iff] at marks
    exact ⟨marks.1, fun dash => by simpa only [dash, Bool.true_and] using marks.2⟩
  · rename_i same
    exact absurd same (by simp)

theorem endsWord_append {cs : List Char} (inside : endsWord cs = false) (tail : List Char) :
    endsWord (cs ++ tail) = false := by
  cases cs with
  | nil => exact absurd inside (by decide)
  | cons c cs => exact inside

end CheatCodes.Yaml
