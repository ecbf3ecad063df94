import CheatCodes.Proofs.Yaml.Literal
/-!
How a lexer gets from one token to the next. A line is reached with its column, with keys allowed
and without a candidate, in the blocks that the line before it left open.
-/
namespace CheatCodes.Yaml

/-! Marks. -/

namespace Mark

theorem line_le_after (m : Mark) (cs : List Char) : m.line ≤ (m.after cs).line := by
  induction cs generalizing m with
  | nil => exact Nat.le_refl _
  | cons c cs ih =>
    have first : m.line ≤ (m.pass c).line := by
      unfold pass
      split <;> simp
    exact Nat.le_trans first (ih (m.pass c))

theorem after_inLine {cs : List Char} (m : Mark) (inLine : ∀ c ∈ cs, isBreak c = false) :
    (m.after cs).line = m.line ∧ (m.after cs).column = m.column + cs.length := by
  induction cs generalizing m with
  | nil => exact ⟨rfl, rfl⟩
  | cons c cs ih =>
    simp only [List.forall_mem_cons] at inLine
    have rest := ih (m.pass c) inLine.2
    have step : (m.pass c).line = m.line ∧ (m.pass c).column = m.column + 1 := by
      simp [pass, inLine.1]
    constructor
    · exact rest.1.trans step.1
    · exact rest.2.trans (by rw [step.2, List.length_cons]; omega)

theorem column_after_char (m : Mark) {c : Char} (inLine : isBreak c = false) :
    (m.after [c]).column = m.column + 1 :=
  (m.after_inLine (by simpa using inLine)).2

theorem after_indentation (m : Mark) (depth : Nat) :
    (m.after (indentation depth)).line = m.line ∧
      (m.after (indentation depth)).column = m.column + depth := by
  have inLine : ∀ c ∈ indentation depth, isBreak c = false := by
    intro c member
    rw [List.eq_of_mem_replicate member]
    rfl
  simpa [indentation] using m.after_inLine inLine

theorem after_newLine (m : Mark) (front : List Char) {b : Char} (closed : isBreak b = true)
    (depth : Nat) :
    m.line < (m.after (front ++ b :: indentation depth)).line ∧
      (m.after (front ++ b :: indentation depth)).column = depth := by
  have split : m.after (front ++ b :: indentation depth) =
      ((m.after front).pass b).after (indentation depth) := after_append m front _
  have fresh : (m.after front).pass b = ⟨(m.after front).line + 1, 0, 0⟩ := by
    simp [pass, closed]
  have moved := after_indentation ((m.after front).pass b) depth
  have before := line_le_after m front
  rw [split, moved.1, moved.2, fresh]
  simp only
  omega

end Mark

/-! Gaps between tokens. -/

theorem skip_token {next : List Char} (token : startsToken next = true)
    (keyAllowed margin : Bool) :
    Lexer.skip false keyAllowed margin false next = (keyAllowed, next) := by
  cases next with
  | nil => rfl
  | cons c cs =>
    simp only [startsToken, isBlank, Bool.not_eq_true', Bool.or_eq_false_iff] at token
    simp [Lexer.skip, token]

theorem skip_indentation {next : List Char} (token : startsToken next = true)
    (keyAllowed margin : Bool) (depth : Nat) :
    Lexer.skip false keyAllowed margin false (indentation depth ++ next) = (keyAllowed, next) := by
  induction depth generalizing margin with
  | zero => exact skip_token token keyAllowed margin
  | succ depth ih =>
    have passed : Lexer.skip false keyAllowed margin false (' ' :: (indentation depth ++ next)) =
        Lexer.skip false keyAllowed false false (indentation depth ++ next) := by
      simp [Lexer.skip, isBreak, byteOrderMark]
    exact passed.trans (ih false)

theorem skip_newline {next : List Char} (token : startsToken next = true)
    (keyAllowed margin : Bool) (depth : Nat) :
    Lexer.skip false keyAllowed margin false ('\n' :: (indentation depth ++ next)) =
      (true, next) := by
  have passed : Lexer.skip false keyAllowed margin false ('\n' :: (indentation depth ++ next)) =
      Lexer.skip false true true false (indentation depth ++ next) := by
    simp [Lexer.skip, isBreak]
  exact passed.trans (skip_indentation token true true depth)

namespace Lexer

theorem goTo_append {l : Lexer} (front : List Char) {rest : List Char}
    (here : l.rest = front ++ rest) :
    l.goTo rest = { l with rest, mark := l.mark.after front } := by
  simp [goTo, here]

theorem closeLevels_of_le {bound level : Nat} (inside : level ≤ bound) (levels : List Nat) :
    closeLevels bound level levels = (0, level, levels) := by
  cases levels with
  | nil => rfl
  | cons parent levels => simp [closeLevels, Nat.not_lt.2 inside]

theorem unroll_of_le {l : Lexer} {bound : Nat} (inside : l.level ≤ bound) : l.unroll bound = l := by
  simp [unroll, closeLevels_of_le inside]

theorem settle_eq {l : Lexer} (gap : List Char) {next : List Char} {keyAllowed : Bool}
    {candidate : Option Candidate} (block : l.outer = []) (here : l.rest = gap ++ next)
    (skipped : skip false l.keyAllowed (l.mark.column == 0) false (gap ++ next) =
      (keyAllowed, next))
    (fresh : refresh (l.mark.after gap) l.candidate = some candidate) :
    l.settle = some (({ l with rest := next, mark := l.mark.after gap, keyAllowed, candidate } :
      Lexer).unroll ((l.mark.after gap).column + 1)) := by
  have flow : l.inFlow = false := by simp [inFlow, block]
  simp [settle, refreshAll, here, skipped, goTo_append gap here, fresh, flow, block]

/-- The lexer is about to reach a line: its column, the blocks left open, the tokens so far and
the text from the line's first token on. -/
def AtLine (l : Lexer) (column level : Nat) (levels : List Nat) (tokens : List Token)
    (next : List Char) : Prop :=
  ∃ mark : Mark, mark.column = column ∧
    l.settle = some ((⟨next, mark, tokens, level, levels, true, none, [], []⟩ : Lexer).unroll
      (column + 1))

theorem atLine_of_gap {l : Lexer} (gap : List Char) {next : List Char} (block : l.outer = [])
    (plain : l.anchors = []) (here : l.rest = gap ++ next)
    (skipped : skip false l.keyAllowed (l.mark.column == 0) false (gap ++ next) = (true, next))
    (stale : ∀ k, l.candidate = some k →
      k.required = false ∧ k.mark.line < (l.mark.after gap).line) :
    l.AtLine (l.mark.after gap).column l.level l.levels l.tokens next := by
  have fresh : refresh (l.mark.after gap) l.candidate = some none := by
    cases held : l.candidate with
    | none => rfl
    | some k =>
      obtain ⟨free, earlier⟩ := stale k held
      simp [refresh, free, earlier]
  refine ⟨l.mark.after gap, rfl, ?_⟩
  rw [settle_eq gap block here skipped fresh, plain, block]

theorem atLine_newline {l : Lexer} {column : Nat} {next : List Char} (block : l.outer = [])
    (plain : l.anchors = []) (here : l.rest = '\n' :: (indentation column ++ next))
    (clear : startsToken next = true)
    (free : ∀ k, l.candidate = some k → k.required = false ∧ k.mark.line ≤ l.mark.line) :
    l.AtLine column l.level l.levels l.tokens next := by
  have moved := l.mark.after_newLine [] (b := '\n') rfl column
  have reached := atLine_of_gap ('\n' :: indentation column) block plain here
    (skip_newline clear l.keyAllowed _ column) fun k held =>
      ⟨(free k held).1, Nat.lt_of_le_of_lt (free k held).2 moved.1⟩
  rw [List.nil_append] at moved
  rwa [moved.2] at reached

def Steps (n : Nat) (l l' : Lexer) : Prop :=
  ∀ fuel, l.run (fuel + n) = l'.run fuel

theorem Steps.trans {m n : Nat} {a b c : Lexer} (first : Steps m a b) (second : Steps n b c) :
    Steps (n + m) a c := by
  intro fuel
  rw [← Nat.add_assoc, first, second]

def take? (l : Lexer) : Option Lexer :=
  match l.rest with
  | [] => none
  | c :: cs => l.fetch c cs

theorem steps_one {l here next : Lexer} (settled : l.settle = some here)
    (taken : here.take? = some next) : Steps 1 l next := by
  intro fuel
  cases rest : here.rest with
  | nil => simp [take?, rest] at taken
  | cons c cs =>
    simp only [take?, rest] at taken
    simp [run, settled, rest, taken]

end Lexer

end CheatCodes.Yaml
