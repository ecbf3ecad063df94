import CheatCodes.Proofs.Yaml.Quoted
import CheatCodes.Proofs.Yaml.Settle
/-!
Scalars as tokens. A written text is read back as one token, whether it stands before the colon of
its value or at the end of a line. Main statements: `keyText_writeScalar` and
`lineText_writeScalar`.
-/
namespace CheatCodes.Yaml

namespace Lexer

def ready (rest : List Char) (mark : Mark) (tokens : List Token) (level : Nat) (levels : List Nat)
    (keyAllowed : Bool) : Lexer :=
  ⟨rest, mark, tokens, level, levels, keyAllowed, none, [], []⟩

theorem fetch_single (l : Lexer) (cs : List Char) :
    l.fetch '\'' cs = l.fetchQuoted .single (readSingle .none cs) := by
  simp [fetch, startsDocument]

theorem fetch_double (l : Lexer) (cs : List Char) :
    l.fetch '"' cs = l.fetchQuoted .double (readDouble .none cs) := by
  simp [fetch, startsDocument]

theorem fetch_literal {l : Lexer} (block : l.inFlow = false) (cs : List Char) :
    l.fetch '|' cs = l.fetchBlock .literal cs := by
  simp [fetch, startsDocument, block]

theorem fetch_plain {l : Lexer} {c : Char} {cs tail : List Char} (block : l.inFlow = false)
    (plain : PlainText (c :: cs)) (stop : stopsPlain tail) :
    l.fetch c (cs ++ tail) = l.fetchPlain := by
  have document : startsDocument (c :: (cs ++ tail)) = false :=
    startsDocument_append plain.held plain.marks stop
  obtain ⟨punctuation, dash⟩ := opensMark_cons plain.marks
  have word : ['-', '?', ':'].contains c = true → endsWord (cs ++ tail) = false :=
    fun mark => endsWord_append (dash mark) tail
  have dark : isBlank c = false := plain.isBlank_eq (by simpa using plain.first)
  have unbroken : isBreak c = false := plain.isBreak_eq
  have apart : (cs ++ tail).head?.any isBlank = true → endsWord (cs ++ tail) = true := by
    cases cs ++ tail <;> simp_all [endsWord]
  simp at punctuation
  have started : startsPlain false c (cs ++ tail) = true := by
    simp [startsPlain, dark, unbroken, punctuation]
    grind
  simp [fetch, document, punctuation, block, started]
  grind

/-! What a scalar leaves behind. -/

section

variable {mark : Mark} {tokens : List Token} {level : Nat} {levels : List Nat} {keyAllowed : Bool}

def candidateAt (mark : Mark) (tokens : List Token) (level : Nat) (keyAllowed : Bool) :
    Option Candidate :=
  if keyAllowed then some ⟨level == mark.column + 1, tokens.length, mark⟩ else none

theorem markCandidate_ready (rest : List Char) :
    (ready rest mark tokens level levels keyAllowed).markCandidate =
      some { ready rest mark tokens level levels keyAllowed with
        candidate := candidateAt mark tokens level keyAllowed } := by
  cases keyAllowed <;> rfl

theorem fetchQuoted_ready {front tail text : List Char} (style : Style) :
    (ready (front ++ tail) mark tokens level levels keyAllowed).fetchQuoted style
        (some (text, tail)) =
      some ⟨tail, mark.after front, .scalar style text :: tokens, level, levels, false,
        candidateAt mark tokens level keyAllowed, [], []⟩ := by
  simp only [fetchQuoted, markCandidate_ready, Option.bind_eq_bind, Option.bind_some]
  rw [goTo_append front rfl]
  rfl

theorem fetchPlain_ready {front tail text : List Char} {ended : Bool}
    (read : readPlain false level .none (front ++ tail) = some ⟨text, ended, tail⟩) :
    (ready (front ++ tail) mark tokens level levels keyAllowed).fetchPlain =
      some ⟨tail, mark.after front, .scalar .plain text :: tokens, level, levels, ended,
        candidateAt mark tokens level keyAllowed, [], []⟩ := by
  simp only [fetchPlain, markCandidate_ready, Option.bind_eq_bind, Option.bind_some]
  simp only [ready, inFlow, List.isEmpty_nil, Bool.not_true, read, Option.bind_some]
  rw [goTo_append front rfl]
  rfl

theorem fetchBlock_ready (front : List Char) {cs tail text : List Char}
    (read : readBlock true level cs = some (text, tail)) :
    (ready (front ++ tail) mark tokens level levels keyAllowed).fetchBlock .literal cs =
      some ⟨tail, mark.after front, .scalar .literal text :: tokens, level, levels, true, none,
        [], []⟩ := by
  have free : (ready (front ++ tail) mark tokens level levels keyAllowed).dropCandidate =
      some (ready (front ++ tail) mark tokens level levels keyAllowed) := rfl
  simp only [fetchBlock, free, Option.bind_eq_bind, Option.bind_some]
  simp only [ready, beq_self_eq_true, read, Option.bind_some]
  rw [goTo_append front rfl]
  rfl

end

end Lexer

open Lexer

/-- A lexer behind a token that began at a mark where keys are allowed. -/
def Lexer.behind (rest : List Char) (mark later : Mark) (t : Token) (tokens : List Token)
    (level : Nat) (levels : List Nat) : Lexer :=
  ⟨rest, later, t :: tokens, level, levels, false, candidateAt mark tokens level true, [], []⟩

/-- Characters within a line that are read as a scalar before a colon, and soon enough for it to
be a key. -/
structure KeyText (spelling : List Char) (style : Style) (text : List Char) : Prop where
  short : Short 1024 spelling
  held : spelling ≠ []
  token : startsToken spelling = true
  taken {rest : List Char} (mark : Mark) (tokens : List Token) (level : Nat) (levels : List Nat)
    (ends : endsWord rest = true) :
    (ready (spelling ++ ':' :: rest) mark tokens level levels true).take? =
      some (behind (':' :: rest) mark (mark.after spelling) (.scalar style text) tokens level
        levels)

/-- Characters with a line end that are read as a scalar in a block, before a line further left. -/
structure LineText (level : Nat) (spelling : List Char) (style : Style) (text : List Char) :
    Prop where
  held : spelling ≠ []
  token : startsToken spelling = true
  taken {column : Nat} {next : List Char} (mark : Mark) (keyAllowed : Bool) (tokens : List Token)
    (levels : List Nat) (left : column < level) (clear : startsToken next = true)
    (inside : keyAllowed = true → level ≤ mark.column) :
    ∃ l, (ready (spelling ++ (indentation column ++ next)) mark tokens level levels
        keyAllowed).take? = some l ∧
      l.AtLine column level levels (.scalar style text :: tokens) next

theorem free_candidateAt {mark : Mark} {tokens : List Token} {level : Nat} {keyAllowed : Bool}
    (inside : keyAllowed = true → level ≤ mark.column) (k : Candidate)
    (held : candidateAt mark tokens level keyAllowed = some k) :
    k.required = false ∧ k.mark.line ≤ mark.line := by
  cases keyAllowed with
  | false => exact absurd held (by simp [candidateAt])
  | true =>
    have right : level ≤ mark.column := inside rfl
    have same : k = ⟨level == mark.column + 1, tokens.length, mark⟩ := by
      simpa [candidateAt] using held.symm
    rw [same]
    exact ⟨by simp; omega, Nat.le_refl _⟩

theorem atLine_of_newLine {front next : List Char} {b : Char} {column : Nat} {mark : Mark}
    {style : Style} {text : List Char} (closed : isBreak b = true)
    (clear : startsToken next = true) (tokens : List Token) (level : Nat) (levels : List Nat)
    {candidate : Option Candidate}
    (free : ∀ k, candidate = some k → k.required = false ∧ k.mark.line ≤ mark.line) :
    AtLine ⟨next, mark.after (front ++ b :: indentation column), .scalar style text :: tokens,
      level, levels, true, candidate, [], []⟩ column level levels (.scalar style text :: tokens)
      next := by
  have moved := mark.after_newLine front closed column
  have reached := atLine_of_gap (l := ⟨next, mark.after (front ++ b :: indentation column),
    .scalar style text :: tokens, level, levels, true, candidate, [], []⟩) [] rfl rfl rfl
    (skip_token clear true _) fun k held =>
      ⟨(free k held).1, Nat.lt_of_le_of_lt (free k held).2 moved.1⟩
  rw [Mark.after_nil, moved.2] at reached
  exact reached

namespace PlainText

variable {text : List Char} (plain : PlainText text)
include plain

theorem token : startsToken text = true := by
  obtain ⟨c, cs, rfl⟩ := List.exists_cons_of_ne_nil plain.held
  have dark : isBlank c = false := plain.isBlank_eq (by simpa using plain.first)
  have comment : c ≠ '#' := by
    have marks := (opensMark_cons plain.marks).1
    simp at marks
    exact marks.1
  have order : c ≠ byteOrderMark := by
    intro same
    have writable := plain.writable c List.mem_cons_self
    rw [same] at writable
    exact absurd writable (by decide)
  simp [startsToken, plain.isBreak_eq, dark, comment, order]

theorem take?_eq {tail : List Char} (stop : stopsPlain tail) (mark : Mark) (tokens : List Token)
    (level : Nat) (levels : List Nat) (keyAllowed : Bool) :
    (ready (text ++ tail) mark tokens level levels keyAllowed).take? =
      (ready (text ++ tail) mark tokens level levels keyAllowed).fetchPlain := by
  obtain ⟨c, cs, rfl⟩ := List.exists_cons_of_ne_nil plain.held
  exact fetch_plain rfl plain stop

theorem keyText (short : Short 1024 text) : KeyText text .plain text where
  short
  held := plain.held
  token := plain.token
  taken mark tokens level levels ends := by
    rw [plain.take?_eq ⟨_, _, rfl, .inl rfl⟩, fetchPlain_ready (readPlain_key plain.toPlain ends)]
    rfl

theorem lineText (level : Nat) : LineText level (text ++ ['\n']) .plain text where
  held := by simp
  token := (startsToken_append plain.held _).trans plain.token
  taken {column next} mark keyAllowed tokens levels left clear inside := by
    have read := readPlain_line plain.toPlain left clear
    have spelled : text ++ ['\n'] ++ (indentation column ++ next) =
        (text ++ '\n' :: indentation column) ++ next := by simp
    have split : (text ++ '\n' :: indentation column) ++ next =
        text ++ '\n' :: (indentation column ++ next) := by simp
    have fetched : (ready (text ++ ['\n'] ++ (indentation column ++ next)) mark tokens level levels
        keyAllowed).take? = some ⟨next, mark.after (text ++ '\n' :: indentation column),
          .scalar .plain text :: tokens, level, levels, true,
          candidateAt mark tokens level keyAllowed, [], []⟩ := by
      rw [spelled, split, plain.take?_eq ⟨_, _, rfl, .inr rfl⟩, ← split]
      exact fetchPlain_ready (by rw [split]; exact read)
    exact ⟨_, fetched, atLine_of_newLine (b := '\n') rfl clear tokens level levels
      (free_candidateAt inside)⟩

end PlainText

structure QuotedText (spelling : List Char) (style : Style) (text : List Char) : Prop where
  held : spelling ≠ []
  token : startsToken spelling = true
  taken {tail : List Char} (apart : tail.head? ≠ some '\'') (mark : Mark) (tokens : List Token)
    (level : Nat) (levels : List Nat) (keyAllowed : Bool) :
    (ready (spelling ++ tail) mark tokens level levels keyAllowed).take? =
      (ready (spelling ++ tail) mark tokens level levels keyAllowed).fetchQuoted style
        (some (text, tail))

theorem quotedText_single {depth : Nat} (nested : 0 < depth) {text : List Char}
    (single : Single text) : QuotedText (writeSingle depth text) .single text where
  held := by simp [writeSingle]
  token := rfl
  taken {tail} apart mark tokens level levels keyAllowed := by
    rw [← readSingle_write nested single apart]
    exact fetch_single _ _

theorem quotedText_double (text : List Char) : QuotedText (writeDouble text) .double text where
  held := by simp [writeDouble]
  token := rfl
  taken {tail} _ mark tokens level levels keyAllowed := by
    have spelled : writeDouble text ++ tail = '"' :: (text.flatMap escaped ++ '"' :: tail) := by
      simp [writeDouble]
    have read : readDouble .none (text.flatMap escaped ++ '"' :: tail) = some (text, tail) :=
      readDouble_write [] text tail
    rw [spelled, ← read]
    exact fetch_double _ _

namespace QuotedText

variable {spelling text : List Char} {style : Style} (quoted : QuotedText spelling style text)
include quoted

theorem keyText (short : Short 1024 spelling) : KeyText spelling style text where
  short
  held := quoted.held
  token := quoted.token
  taken mark tokens level levels _ := by
    rw [quoted.taken (by simp), fetchQuoted_ready]
    rfl

theorem lineText (level : Nat) : LineText level (spelling ++ ['\n']) style text where
  held := by simp
  token := (startsToken_append quoted.held _).trans quoted.token
  taken {column next} mark keyAllowed tokens levels left clear inside := by
    have spelled : spelling ++ ['\n'] ++ (indentation column ++ next) =
        spelling ++ '\n' :: (indentation column ++ next) := by simp
    refine ⟨_, by rw [spelled, quoted.taken (by simp), fetchQuoted_ready], ?_⟩
    exact atLine_newline rfl rfl rfl clear fun k held =>
      ⟨(free_candidateAt inside k held).1,
        Nat.le_trans (free_candidateAt inside k held).2 (mark.line_le_after spelling)⟩

end QuotedText

/-! Literal scalars. -/

theorem exists_closeLine (written : List Char) :
    ∃ front b, closeLine written = front ++ [b] ∧ isBreak b = true := by
  unfold closeLine
  split
  · rename_i ended
    cases last : written.getLast? with
    | none => simp [endsWith, last] at ended
    | some b =>
      obtain ⟨front, rfl⟩ := List.getLast?_eq_some_iff.1 last
      exact ⟨front, b, rfl, by simpa [endsWith] using ended⟩
  · exact ⟨written, '\n', rfl, rfl⟩

theorem lineText_literal {level : Nat} {text : List Char} (nested : 0 < level) (held : text ≠ [])
    (writable : ∀ c ∈ text, isWritable c = true) :
    LineText level (closeLine (writeLiteral (level + 1) text)) .literal text := by
  obtain ⟨cs, spelled, read⟩ := readBlock_write nested held writable
  obtain ⟨front, b, ended, closed⟩ := exists_closeLine (writeLiteral (level + 1) text)
  refine ⟨by simp [spelled], by rw [spelled]; rfl, ?_⟩
  intro column next mark keyAllowed tokens levels left clear _
  have split : '|' :: (cs ++ (indentation column ++ next)) =
      (front ++ b :: indentation column) ++ next := by
    rw [← List.cons_append, ← spelled, ended]
    simp
  have fetched : (ready ('|' :: (cs ++ (indentation column ++ next))) mark tokens level levels
      keyAllowed).take? = some ⟨next, mark.after (front ++ b :: indentation column),
        .scalar .literal text :: tokens, level, levels, true, none, [], []⟩ := by
    refine (fetch_literal rfl _).trans ?_
    rw [split]
    exact fetchBlock_ready (front ++ b :: indentation column) (read (Nat.le_of_lt left) clear)
  rw [spelled]
  exact ⟨_, fetched, atLine_of_newLine closed clear tokens level levels (by simp)⟩

/-! Written texts. -/

theorem single_of_allowsSingle {text : List Char} (allowed : allowsSingle text = true)
    (oneLine : '\n' ∉ text) : Single text := by
  simp only [allowsSingle, Bool.and_eq_true, List.all_eq_true, Bool.not_eq_true'] at allowed
  exact ⟨allowed.1.1, oneLine, allowed.1.2, allowed.2⟩

theorem styleOf_cases (isKey : Bool) (text : List Char) :
    (styleOf isKey text = .plain ∧ PlainText text) ∨
    (styleOf isKey text = .single ∧ Single text ∧
      (isKey = true → ∀ c ∈ text, isBreak c = false)) ∨
    (styleOf isKey text = .literal ∧ isKey = false ∧ text ≠ [] ∧
      ∀ c ∈ text, isWritable c = true) ∨
    styleOf isKey text = .double := by
  unfold styleOf
  split
  · rename_i newline
    split
    · exact .inr (.inr (.inr rfl))
    · rename_i block
      simp only [allowsLiteral, Bool.or_eq_true, not_or, Bool.not_eq_true, Bool.not_eq_false',
        Bool.and_eq_true, List.all_eq_true] at block
      have held : text ≠ [] := by
        intro empty
        rw [empty] at newline
        exact absurd newline (by decide)
      exact .inr (.inr (.inl ⟨rfl, block.1, held, block.2.1.1⟩))
  · rename_i oneLine
    split
    · rename_i plain
      simp only [Bool.and_eq_true, Bool.not_eq_true'] at plain
      have held : text ≠ [] := by
        intro empty
        rw [empty] at plain
        exact absurd plain.1 (by decide)
      exact .inl ⟨rfl, plainText_of_allowsPlain held plain.2⟩
    · split
      · rename_i single
        simp only [Bool.and_eq_true, Bool.not_eq_true', hasLines, Bool.and_eq_false_iff,
          List.any_eq_false, Bool.not_eq_true] at single
        refine .inr (.inl ⟨rfl, single_of_allowsSingle single.1 (by simpa using oneLine), ?_⟩)
        intro key
        simpa [key] using single.2
      · exact .inr (.inr (.inr rfl))

theorem writeScalar_ne_nil (isKey : Bool) (depth : Nat) (text : List Char) :
    writeScalar isKey depth text ≠ [] := by
  unfold writeScalar
  rcases styleOf_cases isKey text with ⟨style, plain⟩ | ⟨style, -⟩ | ⟨style, -⟩ | style
  · rw [style]
    exact plain.held
  · simp [style, writeSingle]
  · simp [style, writeLiteral]
  · simp [style, writeDouble]

theorem closeLine_of_inLine {written : List Char} (inLine : ∀ c ∈ written, isBreak c = false) :
    closeLine written = written ++ ['\n'] := by
  cases last : written.getLast? with
  | none => simp [closeLine, endsWith, last]
  | some c => simp [closeLine, endsWith, last, inLine c (List.mem_of_getLast? last)]

theorem exists_writeSingleRest (depth : Nat) (margin : Bool) (text : List Char) :
    ∃ front, writeSingleRest depth margin text = front ++ ['\''] := by
  induction text generalizing margin with
  | nil => exact ⟨_, rfl⟩
  | cons c cs ih =>
    obtain ⟨started, onMargin⟩ := ih true
    obtain ⟨inside, inLine⟩ := ih false
    by_cases line : isBreak c = true
    · exact ⟨(if !margin && c == '\n' then ['\n'] else []) ++ c :: started,
        by simp [writeSingleRest, line, onMargin]⟩
    · rw [writeSingleRest_word (by simpa using line), inLine, ← List.append_assoc,
        ← List.append_assoc]
      exact ⟨_, rfl⟩

theorem closeLine_writeSingle (depth : Nat) (text : List Char) :
    closeLine (writeSingle depth text) = writeSingle depth text ++ ['\n'] := by
  obtain ⟨front, spelled⟩ := exists_writeSingleRest depth false text
  rw [writeSingle, spelled]
  simpa using closeLine_inLine (c := '\'') rfl ('\'' :: front)

theorem lineText_writeScalar {level : Nat} (nested : 0 < level) (text : List Char) :
    LineText level (closeLine (writeScalar false (level + 1) text)) (styleOf false text) text := by
  unfold writeScalar
  rcases styleOf_cases false text with
    ⟨style, plain⟩ | ⟨style, single, -⟩ | ⟨style, -, held, writable⟩ | style
  · rw [style]
    simp only
    rw [closeLine_of_inLine plain.oneLine]
    exact plain.lineText level
  · rw [style]
    simp only
    rw [closeLine_writeSingle]
    exact (quotedText_single (Nat.succ_pos level) single).lineText level
  · rw [style]
    exact lineText_literal nested held writable
  · rw [style]
    simp only
    rw [closeLine_of_inLine (short_writeDouble text).inLine]
    exact (quotedText_double text).lineText level

theorem keyText_writeScalar {key : String} (simple : isSimpleKey key = true) (depth : Nat)
    (nested : 0 < depth) :
    KeyText (writeScalar true depth key.toList) (styleOf true key.toList) key.toList := by
  have size : key.utf8ByteSize ≤ 128 := by
    simp only [isSimpleKey, Bool.and_eq_true, decide_eq_true_eq] at simple
    exact simple.1
  have count : key.toList.length ≤ 128 := by
    have length := length_le_utf8ByteSize key.toList
    rw [String.ofList_toList] at length
    exact Nat.le_trans length size
  unfold writeScalar
  rcases styleOf_cases true key.toList with
    ⟨style, plain⟩ | ⟨style, single, inLine⟩ | ⟨_, never, _⟩ | style
  · rw [style]
    exact plain.keyText ⟨by simpa using Nat.le_trans size (by decide), plain.oneLine⟩
  · rw [style]
    exact (quotedText_single nested single).keyText
      ((short_writeSingle (inLine rfl) depth).mono (by omega))
  · exact absurd never (by decide)
  · rw [style]
    exact (quotedText_double key.toList).keyText ((short_writeDouble key.toList).mono (by omega))

end CheatCodes.Yaml
