import CheatCodes.Proofs.Yaml.Fetch
/-!
Mappings as tokens, line by line. An entry's column tells which blocks it ends and whether it begins
one; its key and its value are read as single tokens.
-/
namespace CheatCodes.Yaml

open Lexer

/-- A line at a column ends the blocks further right and begins one of its own, if it is not there
yet: the tokens for that, and the blocks around the line's own. -/
def Enters (column level : Nat) (levels : List Nat) (opening : List Token) (inner : List Nat) :
    Prop :=
  ∃ closed outer outers, closeLevels (column + 1) level levels = (closed, outer, outers) ∧
    ((outer = column + 1 ∧ inner = outers ∧ opening = List.replicate closed .blockEnd) ∨
      (outer ≤ column ∧ inner = outer :: outers ∧
        opening = List.replicate closed .blockEnd ++ [.mappingStart]))

namespace Enters

variable {column level : Nat}

theorem stays (column : Nat) (levels : List Nat) : Enters column (column + 1) levels [] levels :=
  ⟨0, column + 1, levels, closeLevels_of_le (Nat.le_refl _) levels, .inl ⟨rfl, rfl, rfl⟩⟩

theorem opens (right : level ≤ column) (levels : List Nat) :
    Enters column level levels [.mappingStart] (level :: levels) :=
  ⟨0, level, levels, closeLevels_of_le (Nat.le_succ_of_le right) levels, .inr ⟨right, rfl, rfl⟩⟩

theorem closes (closed : Nat) {levels inner : List Nat}
    (ends : closeLevels (column + 1) level levels = (closed, column + 1, inner)) :
    Enters column level levels (List.replicate closed .blockEnd) inner :=
  ⟨closed, column + 1, inner, ends, .inl ⟨rfl, rfl, rfl⟩⟩

end Enters

/-- Where a line's mapping goes: it is there, or its mark is put in before the line. -/
def Begins (column outer : Nat) (outers inner : List Nat) (below within : List Token) : Prop :=
  (outer = column + 1 ∧ inner = outers ∧ within = below) ∨
    (outer ≤ column ∧ inner = outer :: outers ∧ within = .mappingStart :: below)

theorem Begins.outer_le {column outer : Nat} {outers inner : List Nat}
    {below within : List Token} (begins : Begins column outer outers inner below within) :
    outer ≤ column + 1 := by
  cases begins <;> omega

theorem Begins.roll_eq {column outer : Nat} {outers inner : List Nat}
    {below within : List Token} (begins : Begins column outer outers inner below within)
    (rest : List Char) (mark : Mark) (front : List Token) (keyAllowed : Bool)
    (candidate : Option Candidate) :
    (⟨rest, mark, front ++ below, outer, outers, keyAllowed, candidate, [], []⟩ : Lexer).roll
        column below.length .mappingStart =
      ⟨rest, mark, front ++ within, column + 1, inner, keyAllowed, candidate, [], []⟩ := by
  cases begins with
  | inl stays =>
    obtain ⟨rfl, rfl, rfl⟩ := stays
    simp [roll]
  | inr opens =>
    obtain ⟨left, rfl, rfl⟩ := opens
    simp [roll, inFlow, Nat.not_lt.2 left, Lexer.insert]

section

variable {column level : Nat} {levels inner : List Nat} {opening tokens : List Token}

theorem Enters.settle_eq {l : Lexer} {next : List Char}
    (enters : Enters column level levels opening inner)
    (reached : l.AtLine column level levels tokens next) :
    ∃ mark outer outers below, mark.column = column ∧
      l.settle = some (ready next mark below outer outers true) ∧
      Begins column outer outers inner below (opening.reverse ++ tokens) := by
  obtain ⟨closed, outer, outers, closes, place⟩ := enters
  obtain ⟨mark, here, settled⟩ := reached
  refine ⟨mark, outer, outers, List.replicate closed .blockEnd ++ tokens, here, ?_, ?_⟩
  · rw [settled]
    simp [unroll, closes, inFlow, ready]
  · cases place with
    | inl stays =>
      obtain ⟨own, same, rfl⟩ := stays
      exact .inl ⟨own, same, by simp⟩
    | inr opens =>
      obtain ⟨left, pushed, rfl⟩ := opens
      exact .inr ⟨left, pushed, by simp⟩

theorem fetch_colon {l : Lexer} {rest : List Char} (ends : endsWord rest = true) :
    l.fetch ':' rest = l.startValue rest := by
  simp [fetch, startsDocument, ends]

theorem fetch_questionMark {l : Lexer} {rest : List Char} (ends : endsWord rest = true) :
    l.fetch '?' rest = l.startKey rest := by
  simp [fetch, startsDocument, ends]

theorem Begins.startValue_eq {outer : Nat} {outers : List Nat} {below within : List Token}
    (begins : Begins column outer outers inner below within) {mark : Mark}
    (here : mark.column = column) (rest : List Char) (later : Mark) (t : Token) :
    (behind (':' :: rest) mark later t below outer outers).startValue rest =
      some (ready rest (later.after [':']) (.value :: t :: .key :: within) (column + 1) inner
        false) := by
  have inserted : (behind (':' :: rest) mark later t below outer outers).insert below.length .key =
      ⟨':' :: rest, later, [t, .key] ++ below, outer, outers, false,
        candidateAt mark below outer true, [], []⟩ := by
    simp [behind, Lexer.insert]
  have held : (behind (':' :: rest) mark later t below outer outers).candidate =
      some ⟨outer == mark.column + 1, below.length, mark⟩ := rfl
  simp only [startValue, held, inserted, here, begins.roll_eq]
  rw [goTo_append [':'] rfl]
  rfl

theorem settle_behind {spelling : List Char} (short : Short 1024 spelling) (rest : List Char)
    (clear : startsToken rest = true) {mark : Mark} {outer : Nat} (inside : outer ≤ mark.column + 1)
    (t : Token) (below : List Token) (outers : List Nat) :
    (behind rest mark (mark.after spelling) t below outer outers).settle =
      some (behind rest mark (mark.after spelling) t below outer outers) := by
  have moved := mark.after_inLine short.inLine
  have octets := mark.octet_after short.inLine
  have few := short.octets
  -- a candidate goes stale on the next line or after 1024 octets
  have fresh : refresh (mark.after spelling) (candidateAt mark below outer true) =
      some (candidateAt mark below outer true) := by
    simp [refresh, candidateAt, moved.1, octets]
    omega
  have kept := Lexer.settle_eq (l := behind rest mark (mark.after spelling) t below outer outers)
    [] rfl rfl (skip_token clear false _) fresh
  have within : outer ≤ (mark.after spelling).column + 1 := by omega
  exact kept.trans (congrArg some (unroll_of_le within))

theorem steps_key {l : Lexer} {spelling text rest : List Char} {style : Style}
    (reached : l.AtLine column level levels tokens (spelling ++ ':' :: rest))
    (enters : Enters column level levels opening inner) (key : KeyText spelling style text)
    (ends : endsWord rest = true) :
    ∃ mark : Mark, column < mark.column ∧
      Steps 2 l (ready rest mark
        (.value :: .scalar style text :: .key :: (opening.reverse ++ tokens)) (column + 1) inner
        false) := by
  obtain ⟨mark, outer, outers, below, here, settled, begins⟩ := enters.settle_eq reached
  have scalar : Steps 1 l _ := steps_one settled (key.taken mark below outer outers ends)
  have kept := settle_behind key.short (':' :: rest) rfl (here ▸ begins.outer_le)
    (.scalar style text) below outers
  have colon := (fetch_colon ends).trans
    (begins.startValue_eq here rest (mark.after spelling) (.scalar style text))
  refine ⟨_, ?_, scalar.trans (steps_one kept colon)⟩
  have key := mark.after_inLine key.short.inLine
  rw [(mark.after spelling).column_after_char rfl, key.2, here]
  omega

theorem steps_questionMark {l : Lexer} {rest : List Char}
    (reached : l.AtLine column level levels tokens ('?' :: rest))
    (enters : Enters column level levels opening inner) (ends : endsWord rest = true) :
    ∃ mark : Mark, column < mark.column ∧
      Steps 1 l (ready rest mark (.key :: (opening.reverse ++ tokens)) (column + 1) inner
        true) := by
  obtain ⟨mark, outer, outers, below, here, settled, begins⟩ := enters.settle_eq reached
  have rolled := begins.roll_eq ('?' :: rest) mark [] true none
  have started : (ready ('?' :: rest) mark below outer outers true).startKey rest =
      some (ready rest (mark.after ['?']) (.key :: (opening.reverse ++ tokens)) (column + 1) inner
        true) := by
    simp only [List.nil_append] at rolled
    simp [startKey, ready, inFlow, here, rolled, dropCandidate, emit]
    rw [goTo_append ['?'] rfl]
  refine ⟨_, ?_, steps_one settled ((fetch_questionMark ends).trans started)⟩
  rw [mark.column_after_char rfl, here]
  exact Nat.lt_succ_self column

theorem steps_value {l : Lexer} {rest : List Char}
    (reached : l.AtLine column (column + 1) levels tokens (':' :: rest))
    (ends : endsWord rest = true) :
    ∃ mark : Mark, column < mark.column ∧
      Steps 1 l (ready rest mark (.value :: tokens) (column + 1) levels true) := by
  obtain ⟨mark, here, settled⟩ := reached
  rw [unroll_of_le (Nat.le_refl (column + 1))] at settled
  have started : (ready (':' :: rest) mark tokens (column + 1) levels true).startValue rest =
      some (ready rest (mark.after [':']) (.value :: tokens) (column + 1) levels true) := by
    simp [startValue, ready, inFlow, roll, here, emit]
    rw [goTo_append [':'] rfl]
  refine ⟨_, ?_, steps_one settled ((fetch_colon ends).trans started)⟩
  rw [mark.column_after_char rfl, here]
  exact Nat.lt_succ_self column

theorem settle_space {mark : Mark} (inside : level ≤ mark.column) {next : List Char}
    (clear : startsToken next = true) (tokens : List Token) (levels : List Nat)
    (keyAllowed : Bool) :
    (ready (' ' :: next) mark tokens level levels keyAllowed).settle =
      some (ready next (mark.after [' ']) tokens level levels keyAllowed) := by
  have settled := Lexer.settle_eq (l := ready (' ' :: next) mark tokens level levels keyAllowed)
    [' '] rfl rfl (skip_indentation clear keyAllowed _ 1) rfl
  have within : level ≤ (mark.after [' ']).column + 1 := by
    rw [mark.column_after_char rfl]
    omega
  exact settled.trans (congrArg some (unroll_of_le within))

theorem steps_scalar {spelling text next : List Char} {style : Style} {mark : Mark}
    (keyAllowed : Bool) (line : LineText level spelling style text) (left : column < level)
    (clear : startsToken next = true) (inside : level ≤ mark.column) (tokens : List Token)
    (levels : List Nat) :
    ∃ l, Steps 1 (ready (' ' :: (spelling ++ (indentation column ++ next))) mark tokens level
        levels keyAllowed) l ∧
      l.AtLine column level levels (.scalar style text :: tokens) next := by
  have first : startsToken (spelling ++ (indentation column ++ next)) = true :=
    (startsToken_append line.held _).trans line.token
  have right : level ≤ (mark.after [' ']).column := by
    rw [mark.column_after_char rfl]
    omega
  obtain ⟨l, taken, reached⟩ :=
    line.taken (mark.after [' ']) keyAllowed tokens levels left clear fun _ => right
  exact ⟨l, steps_one (settle_space inside first tokens levels keyAllowed) taken, reached⟩

def Lexer.behindBrace (rest : List Char) (mark : Mark) (tokens : List Token) (level : Nat)
    (levels : List Nat) : Lexer :=
  ⟨rest, mark, .flowMappingStart :: tokens, level, levels, true, none, [none], []⟩

theorem take?_openBrace (rest : List Char) (mark : Mark) (tokens : List Token) (levels : List Nat) :
    (ready ('\x7b' :: rest) mark tokens level levels false).take? =
      some (behindBrace rest (mark.after ['\x7b']) tokens level levels) := by
  simp [ready, behindBrace, take?, fetch, startsDocument, openFlow, markCandidate, emit]
  rw [goTo_append ['\x7b'] rfl]

theorem take?_closeBrace (rest : List Char) (mark : Mark) (tokens : List Token)
    (levels : List Nat) :
    (behindBrace ('\x7d' :: rest) mark tokens level levels).take? =
      some (ready rest (mark.after ['\x7d']) (.flowMappingEnd :: .flowMappingStart :: tokens) level
        levels false) := by
  simp [ready, behindBrace, take?, fetch, startsDocument, closeFlow, dropCandidate, emit]
  rw [goTo_append ['\x7d'] rfl]

theorem settle_behindBrace (rest : List Char) (mark : Mark) (tokens : List Token)
    (levels : List Nat) :
    (behindBrace ('\x7d' :: rest) mark tokens level levels).settle =
      some (behindBrace ('\x7d' :: rest) mark tokens level levels) := by
  have still (margin : Bool) : skip true true margin false ('\x7d' :: rest) =
      (true, '\x7d' :: rest) := by simp [skip, isBreak, byteOrderMark]
  simp only [behindBrace, settle, inFlow, List.isEmpty_cons, Bool.not_false, still]
  rw [goTo_append [] rfl]
  simp [refreshAll, refresh, unroll, inFlow]

theorem steps_braces {mark : Mark} (inside : level ≤ mark.column) (rest : List Char)
    (tokens : List Token) (levels : List Nat) :
    ∃ later, Steps 2 (ready (' ' :: '\x7b' :: '\x7d' :: rest) mark tokens level levels false)
      (ready rest later (.flowMappingEnd :: .flowMappingStart :: tokens) level levels false) := by
  have clear : startsToken ('\x7b' :: '\x7d' :: rest) = true := rfl
  have opened := steps_one (settle_space inside clear tokens levels false)
    (take?_openBrace ('\x7d' :: rest) (mark.after [' ']) tokens levels)
  exact ⟨_, opened.trans (steps_one (settle_behindBrace rest _ tokens levels)
    (take?_closeBrace rest _ tokens levels))⟩

end

/-- A text of lines, the first one left of a bound, gives some tokens after those of the lines
above, which left some blocks open. -/
def Lines (bound level : Nat) (levels : List Nat) (text : List Char) (ts : List Token) : Prop :=
  ∃ column next, text = indentation column ++ next ∧ column < bound ∧ startsToken next = true ∧
    ∀ (l : Lexer) tokens, l.AtLine column level levels tokens next → ∀ fuel, next.length < fuel →
      l.run fuel = some (tokens.reverse ++ ts)

namespace Lines

variable {bound column level : Nat} {levels inner : List Nat} {opening ts : List Token}
  {text more : List Char}

theorem run_scalar {spelling : List Char} {style : Style}
    (lines : Lines level level levels more ts) (line : LineText level spelling style text)
    {mark : Mark} (inside : level ≤ mark.column) (tokens : List Token) (keyAllowed : Bool)
    {fuel : Nat} (enough : (spelling ++ more).length < fuel) :
    (ready (' ' :: (spelling ++ more)) mark tokens level levels keyAllowed).run fuel =
      some (tokens.reverse ++ .scalar style text :: ts) := by
  obtain ⟨column, next, rfl, left, clear, reads⟩ := lines
  obtain ⟨l, step, reached⟩ :=
    steps_scalar keyAllowed line left clear inside tokens levels
  have held : 0 < spelling.length := List.length_pos_iff.2 line.held
  simp only [List.length_append] at enough
  obtain ⟨fuel, rfl⟩ : ∃ n, fuel = n + 1 := ⟨fuel - 1, by omega⟩
  rw [step, reads l _ reached fuel (by omega)]
  simp

theorem short_entry {keySpelling key spelling : List Char} {keyStyle style : Style}
    (lines : Lines (column + 1) (column + 1) inner more ts)
    (enters : Enters column level levels opening inner) (left : column < bound)
    (keyText : KeyText keySpelling keyStyle key)
    (line : LineText (column + 1) spelling style text) :
    Lines bound level levels
      (indentation column ++ (keySpelling ++ ':' :: ' ' :: (spelling ++ more)))
      (opening ++ [.key, .scalar keyStyle key, .value, .scalar style text] ++ ts) := by
  have token := (startsToken_append keyText.held (':' :: ' ' :: (spelling ++ more))).trans
    keyText.token
  refine ⟨column, _, rfl, left, token, fun l tokens reached fuel enough => ?_⟩
  obtain ⟨mark, inside, steps⟩ := steps_key reached enters keyText rfl
  simp only [List.length_append, List.length_cons] at enough
  obtain ⟨fuel, rfl⟩ : ∃ n, fuel = n + 2 := ⟨fuel - 2, by omega⟩
  rw [steps, lines.run_scalar line inside _ false (by rw [List.length_append]; omega)]
  simp

theorem long_entry {keySpelling key spelling : List Char} {keyStyle style : Style}
    (lines : Lines (column + 1) (column + 1) inner more ts)
    (enters : Enters column level levels opening inner) (left : column < bound)
    (keyLine : LineText (column + 1) keySpelling keyStyle key)
    (line : LineText (column + 1) spelling style text) :
    Lines bound level levels
      (indentation column ++ '?' :: ' ' :: (keySpelling ++
        (indentation column ++ ':' :: ' ' :: (spelling ++ more))))
      (opening ++ [.key, .scalar keyStyle key, .value, .scalar style text] ++ ts) := by
  refine ⟨column, _, rfl, left, rfl, fun l tokens reached fuel enough => ?_⟩
  obtain ⟨mark, inside, begun⟩ := steps_questionMark reached enters rfl
  obtain ⟨l', keyStep, reached'⟩ := steps_scalar true keyLine
    (Nat.lt_succ_self column) (show startsToken (':' :: ' ' :: (spelling ++ more)) = true from rfl)
    inside
    (.key :: (opening.reverse ++ tokens)) inner
  obtain ⟨mark', inside', valued⟩ := steps_value reached' rfl
  simp only [List.length_append, List.length_cons] at enough
  obtain ⟨fuel, rfl⟩ : ∃ n, fuel = n + (1 + (1 + 1)) := ⟨fuel - 3, by omega⟩
  rw [(begun.trans keyStep).trans valued,
    lines.run_scalar line inside' _ true (by rw [List.length_append]; omega)]
  simp

theorem entry {key : String} {spelling : List Char} {style : Style}
    (lines : Lines (column + 1) (column + 1) inner more ts)
    (enters : Enters column level levels opening inner) (left : column < bound)
    (held : spelling ≠ []) (line : LineText (column + 1) (closeLine spelling) style text) :
    Lines bound level levels (writeEntry column key spelling ++ more)
      (opening ++ [.key, .scalar (styleOf (isSimpleKey key) key.toList) key.toList, .value,
        .scalar style text] ++ ts) := by
  have closed : closeLine (':' :: ' ' :: spelling) = ':' :: ' ' :: closeLine spelling := by
    simp [closeLine, held]
    split <;> rfl
  unfold writeEntry
  by_cases simple : isSimpleKey key = true
  · have keyText := keyText_writeScalar simple (column + 2) (Nat.succ_pos (column + 1))
    simpa [simple, closed] using lines.short_entry enters left keyText line
  · have keyLine := lineText_writeScalar (Nat.succ_pos column) key.toList
    simpa [simple, closed] using lines.long_entry enters left keyLine line

theorem block {header keySpelling key : List Char} {keyStyle : Style} {inside : Nat}
    (lines : Lines inside (column + 1) inner more ts)
    (enters : Enters column level levels opening inner) (left : column < bound)
    (keyText : KeyText keySpelling keyStyle key)
    (spelled : header = indentation column ++ (keySpelling ++ [':', '\n'])) :
    Lines bound level levels (header ++ more)
      (opening ++ [.key, .scalar keyStyle key, .value] ++ ts) := by
  have token := (startsToken_append keyText.held (':' :: '\n' :: more)).trans keyText.token
  refine ⟨column, keySpelling ++ ':' :: '\n' :: more, by simp [spelled], left, token,
    fun l tokens reached fuel enough => ?_⟩
  obtain ⟨mark, -, steps⟩ := steps_key reached enters keyText rfl
  obtain ⟨column', next, rfl, left', clear, reads⟩ := lines
  simp only [List.length_append, List.length_cons] at enough
  obtain ⟨fuel, rfl⟩ : ∃ n, fuel = n + 2 := ⟨fuel - 2, by omega⟩
  have below := atLine_newline (l := ready ('\n' :: (indentation column' ++ next)) mark
    (.value :: .scalar keyStyle key :: .key :: (opening.reverse ++ tokens)) (column + 1) inner
    false) rfl rfl rfl clear (by simp [ready])
  rw [steps, reads _ _ below fuel (by omega)]
  simp [ready]

theorem emptyBlock {header keySpelling key : List Char} {keyStyle : Style} {inside : Nat}
    (lines : Lines inside (column + 1) inner more ts)
    (enters : Enters column level levels opening inner) (left : column < bound)
    (keyText : KeyText keySpelling keyStyle key)
    (spelled : header =
      indentation column ++ (keySpelling ++ [':', ' ', '\x7b', '\x7d', '\n'])) :
    Lines bound level levels (header ++ more)
      (opening ++ [.key, .scalar keyStyle key, .value, .flowMappingStart, .flowMappingEnd] ++
        ts) := by
  have token := (startsToken_append keyText.held
    (':' :: ' ' :: '\x7b' :: '\x7d' :: '\n' :: more)).trans keyText.token
  refine ⟨column, keySpelling ++ ':' :: ' ' :: '\x7b' :: '\x7d' :: '\n' :: more, by simp [spelled],
    left, token, fun l tokens reached fuel enough => ?_⟩
  obtain ⟨mark, right, steps⟩ := steps_key reached enters keyText rfl
  obtain ⟨column', next, rfl, left', clear, reads⟩ := lines
  obtain ⟨later, braces⟩ := steps_braces (show column + 1 ≤ mark.column from right)
    ('\n' :: (indentation column' ++ next))
    (.value :: .scalar keyStyle key :: .key :: (opening.reverse ++ tokens)) inner
  simp only [List.length_append, List.length_cons] at enough
  obtain ⟨fuel, rfl⟩ : ∃ n, fuel = n + (2 + 2) := ⟨fuel - 4, by omega⟩
  have below := atLine_newline (l := ready ('\n' :: (indentation column' ++ next)) later
    (.flowMappingEnd :: .flowMappingStart :: .value :: .scalar keyStyle key :: .key ::
      (opening.reverse ++ tokens)) (column + 1) inner false) rfl rfl rfl clear (by simp [ready])
  rw [steps.trans braces, reads _ _ below fuel (by omega)]
  simp [ready]

theorem done (closed left : Nat) {outer top : Nat} {outers tops : List Nat}
    (first : closeLevels 1 level levels = (closed, outer, outers))
    (last : closeLevels 0 outer outers = (left, top, tops)) (room : 0 < bound) :
    Lines bound level levels []
      (List.replicate closed .blockEnd ++ List.replicate left .blockEnd) := by
  refine ⟨0, [], rfl, room, rfl, fun l tokens reached fuel enough => ?_⟩
  obtain ⟨mark, -, settled⟩ := reached
  obtain ⟨fuel, rfl⟩ : ∃ n, fuel = n + 1 := ⟨fuel - 1, by omega⟩
  -- the empty last line ends the blocks inside the outermost one, the end of the text that one
  have below : (⟨[], mark, tokens, level, levels, true, none, [], []⟩ : Lexer).unroll (0 + 1) =
      ready [] mark (List.replicate closed .blockEnd ++ tokens) outer outers true := by
    simp [unroll, inFlow, first, ready]
  have ended : (ready [] mark (List.replicate closed .blockEnd ++ tokens) outer outers true).unroll
      0 = ready [] mark (List.replicate left .blockEnd ++
        (List.replicate closed .blockEnd ++ tokens)) top tops true := by
    simp [unroll, inFlow, last, ready]
  have rest : (ready [] mark (List.replicate closed .blockEnd ++ tokens) outer outers true).rest =
      [] := rfl
  simp only [run, settled, below, Option.bind_eq_bind, Option.bind_some, rest, ended]
  simp [dropCandidate, ready]

end Lines

theorem run_ofChars {bound : Nat} {text : List Char} {ts : List Token}
    (lines : Lines bound 0 [] text ts) :
    (Lexer.ofChars text).run (text.length + 1) = some ts := by
  obtain ⟨column, next, rfl, -, clear, reads⟩ := lines
  have moved := Mark.start.after_indentation column
  have begun := atLine_of_gap (l := .ofChars (indentation column ++ next))
    (indentation column) rfl rfl rfl (skip_indentation clear true _ column)
    (by simp [ofChars])
  rw [show (ofChars (indentation column ++ next)).mark = Mark.start from rfl, moved.2,
    show Mark.start.column + column = column from Nat.zero_add column] at begun
  exact reads _ _ begun _ (by rw [List.length_append]; omega)

end CheatCodes.Yaml
