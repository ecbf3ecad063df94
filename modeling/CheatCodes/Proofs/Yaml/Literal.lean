import CheatCodes.Proofs.Yaml.Plain
/-!
Literal scalars are read as they were written. A text is content, which ends in a line, and the
line ends after it; the header says how many of those belong to the text. Main statement:
`readBlock_write`.
-/
namespace CheatCodes.Yaml

/-- Lines with line ends between them, none after the last. -/
inductive Content : List Char → Prop
  | last (breaks line : List Char) (margin : ∀ c ∈ breaks, isBreak c = true) (held : line ≠ [])
      (inLine : ∀ c ∈ line, isBreak c = false) : Content (breaks ++ line)
  | next (breaks line : List Char) {b : Char} {body : List Char}
      (margin : ∀ c ∈ breaks, isBreak c = true) (held : line ≠ [])
      (inLine : ∀ c ∈ line, isBreak c = false) (closed : isBreak b = true)
      (more : Content body) : Content (breaks ++ line ++ b :: body)

namespace Content

theorem singleton {c : Char} (inLine : isBreak c = false) : Content [c] :=
  .last [] [c] (by simp) (by simp) (by simpa using inLine)

theorem cons {cs : List Char} (content : Content cs) (c : Char) : Content (c :: cs) := by
  by_cases line : isBreak c = true
  · cases content with
    | last breaks rest margin held inLine =>
      exact .last (c :: breaks) rest (by simpa using ⟨line, margin⟩) held inLine
    | next breaks rest margin held inLine closed more =>
      exact .next (c :: breaks) rest (by simpa using ⟨line, margin⟩) held inLine closed more
  · rw [Bool.not_eq_true] at line
    cases content with
    | last breaks rest margin held inLine =>
      cases breaks with
      | nil => exact .last [] (c :: rest) (by simp) (by simp) (by simpa using ⟨line, inLine⟩)
      | cons b bs =>
        simp only [List.forall_mem_cons] at margin
        exact .next [] [c] (by simp) (by simp) (by simpa using line)
          margin.1 (.last bs rest margin.2 held inLine)
    | @next breaks rest b body margin held inLine closed more =>
      cases breaks with
      | nil =>
        exact .next [] (c :: rest) (by simp) (by simp)
          (by simpa using ⟨line, inLine⟩) closed more
      | cons b bs =>
        simp only [List.forall_mem_cons] at margin
        exact .next [] [c] (by simp) (by simp) (by simpa using line)
          margin.1 (.next bs rest margin.2 held inLine closed more)

theorem exists_first {text : List Char} (content : Content text) : ∃ c cs, text = c :: cs := by
  refine List.exists_cons_of_ne_nil ?_
  cases content <;> simp_all

theorem exists_last {text : List Char} (content : Content text) :
    ∃ cs c, text = cs ++ [c] ∧ isBreak c = false := by
  induction content with
  | last breaks line margin held inLine =>
    refine ⟨breaks ++ line.dropLast, line.getLast held, ?_, inLine _ (List.getLast_mem held)⟩
    rw [List.append_assoc, List.dropLast_concat_getLast held]
  | @next breaks line b body margin held inLine closed more ih =>
    obtain ⟨cs, c, rfl, last⟩ := ih
    exact ⟨breaks ++ line ++ b :: cs, c, by simp, last⟩

end Content

theorem exists_content (text : List Char) :
    ∃ body ends, text = body ++ ends ∧ (body = [] ∨ Content body) ∧
      ∀ c ∈ ends, isBreak c = true := by
  induction text with
  | nil => exact ⟨[], [], rfl, .inl rfl, by simp⟩
  | cons c cs ih =>
    obtain ⟨body, ends, rfl, content, margin⟩ := ih
    cases content with
    | inr content => exact ⟨c :: body, ends, rfl, .inr (content.cons c), margin⟩
    | inl empty =>
      subst empty
      by_cases line : isBreak c = true
      · exact ⟨[], c :: ends, rfl, .inl rfl, by simpa using ⟨line, margin⟩⟩
      · exact ⟨[c], ends, rfl, .inr (.singleton (by simpa using line)), margin⟩

/-! Margins. -/

theorem readMargin_breaks {breaks : List Char} (margin : ∀ c ∈ breaks, isBreak c = true)
    (indent : Nat) (found cs : List Char) :
    readMargin indent 0 0 found (breaks ++ cs) = readMargin indent 0 0 (found ++ breaks) cs := by
  induction breaks generalizing found with
  | nil => simp
  | cons b bs ih =>
    simp only [List.forall_mem_cons] at margin
    have space : b ≠ ' ' := by
      intro space
      rw [space] at margin
      exact absurd margin.1 (by decide)
    have tab : b ≠ '\t' := by
      intro tab
      rw [tab] at margin
      exact absurd margin.1 (by decide)
    have passed : readMargin indent 0 0 found (b :: (bs ++ cs)) =
        readMargin indent 0 0 (found ++ [b]) (bs ++ cs) := by
      simp [readMargin, space, tab, margin.1]
    rw [List.cons_append, passed, ih margin.2, List.append_assoc, List.singleton_append]

theorem readMargin_indentation {indent column depth : Nat}
    (free : indent = 0 ∨ column + depth ≤ indent) (found cs : List Char) :
    readMargin indent column 0 found (indentation depth ++ cs) =
      readMargin indent (column + depth) 0 found cs := by
  induction depth generalizing column with
  | zero => rfl
  | succ depth ih =>
    have within : (indent == 0 || decide (column < indent)) = true := by
      simp
      omega
    have passed : readMargin indent column 0 found (' ' :: (indentation depth ++ cs)) =
        readMargin indent (column + 1) 0 found (indentation depth ++ cs) := by
      simp only [readMargin, within, beq_self_eq_true, Bool.and_self, if_true]
    exact passed.trans (by rw [ih (by omega), Nat.add_right_comm, Nat.add_assoc])

theorem readMargin_content {indent column : Nat} {c : Char} (inLine : isBreak c = false)
    (begins : isBlank c = false ∨ (0 < indent ∧ indent ≤ column)) (found cs : List Char) :
    readMargin indent column 0 found (c :: cs) = some ⟨found, column, column, c :: cs⟩ := by
  by_cases blank : isBlank c = true
  · have outside : (indent == 0 || decide (column < indent)) = false := by
      simp [blank] at begins ⊢
      omega
    simp [readMargin, outside, inLine]
  · simp only [isBlank, Bool.or_eq_true, beq_iff_eq, not_or] at blank
    simp [readMargin, blank, inLine]

theorem readMargin_left {indent depth : Nat} {next : List Char} (left : depth < indent)
    (token : startsToken next = true) (found : List Char) :
    readMargin indent 0 0 found (indentation depth ++ next) =
      some ⟨found, depth, depth, next⟩ := by
  rw [readMargin_indentation (.inr (by omega)), Nat.zero_add]
  cases next with
  | nil => simp [readMargin]
  | cons c cs =>
    simp only [startsToken, Bool.not_eq_true', Bool.or_eq_false_iff] at token
    exact readMargin_content token.1.1.1 (.inl token.1.1.2) found cs

theorem readMargin_line {breaks line : List Char} {depth : Nat} (nested : 0 < depth)
    (margin : ∀ c ∈ breaks, isBreak c = true) (held : line ≠ [])
    (inLine : ∀ c ∈ line, isBreak c = false) (after : List Char) :
    readMargin depth 0 0 [] (breaks ++ (indentation depth ++ (line ++ after))) =
      some ⟨breaks, depth, depth, line ++ after⟩ := by
  rw [readMargin_breaks margin, readMargin_indentation (.inr (by omega)), Nat.zero_add]
  cases line with
  | nil => exact absurd rfl held
  | cons c line =>
    exact readMargin_content (inLine c List.mem_cons_self) (.inr ⟨nested, Nat.le_refl depth⟩) _ _

/-! Content. -/

theorem writeLiteralLines_breaks {breaks : List Char} (margin : ∀ c ∈ breaks, isBreak c = true)
    (depth : Nat) (cs : List Char) :
    writeLiteralLines depth true (breaks ++ cs) = breaks ++ writeLiteralLines depth true cs := by
  induction breaks with
  | nil => rfl
  | cons b bs ih =>
    simp only [List.forall_mem_cons] at margin
    simp [writeLiteralLines, margin.1, ih margin.2]

theorem writeLiteralLines_inLine {line : List Char} (inLine : ∀ c ∈ line, isBreak c = false)
    (depth : Nat) (cs : List Char) :
    writeLiteralLines depth false (line ++ cs) = line ++ writeLiteralLines depth false cs := by
  induction line with
  | nil => rfl
  | cons c line ih =>
    simp only [List.forall_mem_cons] at inLine
    simp [writeLiteralLines, inLine.1, ih inLine.2]

theorem writeLiteralLines_line {line : List Char} (held : line ≠ [])
    (inLine : ∀ c ∈ line, isBreak c = false) (depth : Nat) (cs : List Char) :
    writeLiteralLines depth true (line ++ cs) =
      indentation depth ++ line ++ writeLiteralLines depth false cs := by
  cases line with
  | nil => exact absurd rfl held
  | cons c line =>
    simp only [List.forall_mem_cons] at inLine
    simp [writeLiteralLines, inLine.1, writeLiteralLines_inLine inLine.2]

theorem writeLiteralLines_break {b : Char} (closed : isBreak b = true) (depth : Nat)
    (margin : Bool) (cs : List Char) :
    writeLiteralLines depth margin (b :: cs) = b :: writeLiteralLines depth true cs := by
  simp [writeLiteralLines, closed]

theorem writeLiteralLines_ends {body ends : List Char} (content : Content body)
    (margin : ∀ c ∈ ends, isBreak c = true) (depth : Nat) :
    writeLiteralLines depth true (body ++ ends) = writeLiteralLines depth true body ++ ends := by
  have alone (depth : Nat) (start : Bool) : writeLiteralLines depth start ends = ends := by
    cases ends with
    | nil => rfl
    | cons b bs =>
      simp only [List.forall_mem_cons] at margin
      have rest := writeLiteralLines_breaks margin.2 depth []
      simp only [List.append_nil] at rest
      rw [writeLiteralLines_break margin.1, rest]
      simp [writeLiteralLines]
  induction content with
  | last breaks line before held inLine =>
    have bare := writeLiteralLines_line held inLine depth []
    simp only [List.append_nil] at bare
    rw [List.append_assoc, writeLiteralLines_breaks before, writeLiteralLines_line held inLine,
      alone, writeLiteralLines_breaks before, bare]
    simp [writeLiteralLines]
  | next breaks line before held inLine closed more ih =>
    simp only [List.append_assoc, List.cons_append, writeLiteralLines_breaks before,
      writeLiteralLines_line held inLine, writeLiteralLines_break closed, ih]

theorem readLines_line {line : List Char} {b : Char}
    (inLine : ∀ c ∈ line, isBreak c = false) (closed : isBreak b = true) {indent fuel : Nat}
    {after : List Char} {margin : BlockMargin} (next : readMargin indent 0 0 [] after = some margin)
    {text : List Char} {last : List Char × BlockMargin}
    (read : ∀ spaced, readLines true indent fuel spaced [b] margin = some (text, last))
    (spaced : Bool) (closing breaks : List Char) (deepest : Nat) :
    readLines true indent (fuel + 1) spaced closing
        ⟨breaks, indent, deepest, line ++ b :: after⟩ =
      some (closing ++ breaks ++ line ++ text, last) := by
  have taken : (line ++ b :: after).takeWhile (!isBreak ·) = line := by
    rw [List.takeWhile_append_of_pos (by simpa using inLine)]
    simp [closed]
  have dropped : (line ++ b :: after).dropWhile (!isBreak ·) = b :: after := by
    rw [List.dropWhile_append_of_pos (by simpa using inLine)]
    simp [closed]
  have more : line ++ b :: after ≠ [] := by simp
  rw [readLines, if_pos ⟨rfl, more⟩]
  simp [taken, dropped, next, read, joint]

theorem readLines_left {indent fuel : Nat} {margin : BlockMargin} (left : margin.column < indent)
    (spaced : Bool) (closing : List Char) :
    readLines true indent (fuel + 1) spaced closing margin = some ([], closing, margin) := by
  have apart : ¬ (margin.column = indent ∧ margin.rest ≠ []) := by omega
  rw [readLines, if_neg apart]

theorem readLines_write {depth column : Nat} {body ends next : List Char} {b : Char}
    (content : Content body) (closed : isBreak b = true) (margin : ∀ c ∈ ends, isBreak c = true)
    (left : column < depth) (token : startsToken next = true) :
    ∃ start, readMargin depth 0 0 [] (writeLiteralLines depth true body ++
        b :: (ends ++ (indentation column ++ next))) = some start ∧
      ∀ fuel spaced closing, body.length < fuel →
        readLines true depth fuel spaced closing start =
          some (closing ++ body, [b], ⟨ends, column, column, next⟩) := by
  have stop : readMargin depth 0 0 [] (ends ++ (indentation column ++ next)) =
      some ⟨ends, column, column, next⟩ := by
    rw [readMargin_breaks margin, readMargin_left left token, List.nil_append]
  induction content with
  | last breaks line before held inLine =>
    have written : writeLiteralLines depth true (breaks ++ line) =
        breaks ++ (indentation depth ++ line) := by
      have lines := writeLiteralLines_line held inLine depth []
      rw [writeLiteralLines_breaks before]
      simpa [writeLiteralLines] using lines
    refine ⟨⟨breaks, depth, depth, line ++ b :: (ends ++ (indentation column ++ next))⟩, ?_, ?_⟩
    · simpa [written] using readMargin_line (Nat.zero_lt_of_lt left) before held inLine _
    · intro fuel spaced closing enough
      obtain ⟨fuel, rfl⟩ : ∃ n, fuel = n + 2 := ⟨fuel - 2, by
        have := List.length_pos_iff.2 held
        simp at enough
        omega⟩
      have done (spaced : Bool) : readLines true depth (fuel + 1) spaced [b]
          ⟨ends, column, column, next⟩ = some ([], [b], ⟨ends, column, column, next⟩) :=
        readLines_left left spaced [b]
      rw [readLines_line inLine closed stop done]
      simp
  | @next breaks line b' body before held inLine closed' more ih =>
    obtain ⟨start, margin', read⟩ := ih
    have written : writeLiteralLines depth true (breaks ++ line ++ b' :: body) =
        breaks ++ (indentation depth ++ (line ++ b' :: writeLiteralLines depth true body)) := by
      simp only [List.append_assoc, writeLiteralLines_breaks before,
        writeLiteralLines_line held inLine, writeLiteralLines_break closed']
    refine ⟨⟨breaks, depth, depth, line ++ b' :: (writeLiteralLines depth true body ++
      b :: (ends ++ (indentation column ++ next)))⟩, ?_, ?_⟩
    · rw [written]
      simpa using readMargin_line (Nat.zero_lt_of_lt left) before held inLine _
    · intro fuel spaced closing enough
      obtain ⟨fuel, rfl⟩ : ∃ n, fuel = n + 1 := ⟨fuel - 1, by omega⟩
      have shorter : body.length < fuel := by
        simp at enough
        omega
      rw [readLines_line inLine closed' margin' fun spaced => read fuel spaced [b'] shorter]
      simp

/-! Headers. -/

def Chomp.mark : Chomp → List Char
  | .clip => []
  | .strip => ['-']
  | .keep => ['+']

def blockText (hinted : Bool) (chomp : Chomp) (lines : List Char) : List Char :=
  (if hinted then ['2'] else []) ++ chomp.mark ++ '\n' :: lines

theorem blockText_append (hinted : Bool) (chomp : Chomp) (lines more : List Char) :
    blockText hinted chomp lines ++ more = blockText hinted chomp (lines ++ more) := by
  simp [blockText]

theorem readBlockHeader_blockText (hinted : Bool) (chomp : Chomp) (cs : List Char) :
    readBlockHeader (blockText hinted chomp cs) =
      some (chomp, if hinted then 2 else 0, cs) := by
  cases hinted <;> cases chomp <;> rfl

theorem readMargin_first (depth : Nat) {c : Char} (inLine : isBreak c = false)
    (dark : isBlank c = false) (cs after : List Char) :
    ∃ rest, ∀ indent, indent = 0 ∨ indent = depth →
      readMargin indent 0 0 [] (writeLiteralLines depth true (c :: cs) ++ after) =
        some ⟨[], depth, depth, rest⟩ := by
  refine ⟨c :: (writeLiteralLines depth false cs ++ after), fun indent first => ?_⟩
  have written : writeLiteralLines depth true (c :: cs) =
      indentation depth ++ c :: writeLiteralLines depth false cs := by
    simp [writeLiteralLines, inLine]
  rw [written, List.append_assoc, readMargin_indentation (by omega), List.cons_append,
    readMargin_content inLine (.inl dark), Nat.zero_add]

theorem length_le_writeLiteralLines (depth : Nat) (margin : Bool) (text : List Char) :
    text.length ≤ (writeLiteralLines depth margin text).length := by
  induction text generalizing margin with
  | nil => simp
  | cons c cs ih =>
    unfold writeLiteralLines
    split
    · simpa using ih true
    · have rest := ih false
      simp only [List.length_append, List.length_cons]
      omega

def Chomp.kept (chomp : Chomp) (closing more : List Char) : List Char :=
  match chomp with
  | .clip => closing
  | .strip => []
  | .keep => closing ++ more

theorem readBlock_of (level : Nat) {depth indent : Nat} {chomp : Chomp}
    {header cs text closing : List Char} {start last : BlockMargin}
    (said : readBlockHeader header = some (chomp, depth, cs))
    (found : readMargin (if depth = 0 then 0 else level - 1 + depth) 0 0 [] cs = some start)
    (deep : (if depth = 0 then max start.deepest (max level 1) else level - 1 + depth) = indent)
    (read : readLines true indent (cs.length + 1) false [] start = some (text, closing, last)) :
    readBlock true level header = some (text ++ chomp.kept closing last.breaks, last.rest) := by
  have same : (if (if depth = 0 then 0 else level - 1 + depth) = 0 then
      max start.deepest (max level 1) else (if depth = 0 then 0 else level - 1 + depth)) =
        indent := by
    rw [← deep]
    split <;> split <;> first | rfl | omega
  unfold readBlock
  simp only [said, Option.bind_eq_bind, Option.bind_some, found, same, read]
  cases chomp <;> rfl

section

variable {level column : Nat} {body ends next : List Char} {b : Char}

theorem readBlock_content (nested : 0 < level) (content : Content body)
    (closed : isBreak b = true) (margin : ∀ c ∈ ends, isBreak c = true) (left : column ≤ level)
    (token : startsToken next = true) {hinted : Bool}
    (first : hinted = false → ∀ c, body.head? = some c → isBreak c = false ∧ isBlank c = false)
    (chomp : Chomp) :
    readBlock true level (blockText hinted chomp (writeLiteralLines (level + 1) true body ++
        b :: (ends ++ (indentation column ++ next)))) =
      some (body ++ chomp.kept [b] ends, next) := by
  obtain ⟨start, found, read⟩ :=
    readLines_write content closed margin (Nat.lt_succ_of_le left) token
  have enough : body.length < (writeLiteralLines (level + 1) true body ++
      b :: (ends ++ (indentation column ++ next))).length + 1 := by
    have inner := length_le_writeLiteralLines (level + 1) true body
    simp only [List.length_append, List.length_cons]
    omega
  have said := readBlockHeader_blockText hinted chomp (writeLiteralLines (level + 1) true body ++
    b :: (ends ++ (indentation column ++ next)))
  -- with a hint the header tells how far in the lines stand, without one the first line does
  cases hinted with
  | true =>
    have deep : level - 1 + 2 = level + 1 := by omega
    exact readBlock_of level said (by simpa [deep] using found) (by simpa using deep)
      (read _ false [] enough)
  | false =>
    obtain ⟨c, cs, rfl⟩ := content.exists_first
    obtain ⟨inLine, dark⟩ := first rfl c rfl
    obtain ⟨rest, same⟩ := readMargin_first (level + 1) inLine dark cs
      (b :: (ends ++ (indentation column ++ next)))
    have deepest : start = ⟨[], level + 1, level + 1, rest⟩ := by
      rw [same _ (.inr rfl)] at found
      exact (Option.some.inj found).symm
    have deep : max start.deepest (max level 1) = level + 1 := by
      rw [deepest]
      simp only
      omega
    exact readBlock_of level said (by rw [deepest]; exact same 0 (.inl rfl)) (by simpa using deep)
      (read _ false [] enough)

theorem readBlock_breaks (nested : 0 < level) (margin : ∀ c ∈ ends, isBreak c = true)
    (left : column ≤ level) (token : startsToken next = true) :
    readBlock true level (blockText true .keep (ends ++ (indentation column ++ next))) =
      some (ends, next) := by
  have said := readBlockHeader_blockText true .keep (ends ++ (indentation column ++ next))
  have found : readMargin (level + 1) 0 0 [] (ends ++ (indentation column ++ next)) =
      some ⟨ends, column, column, next⟩ := by
    rw [readMargin_breaks margin, readMargin_left (Nat.lt_succ_of_le left) token, List.nil_append]
  have deep : level - 1 + 2 = level + 1 := by omega
  exact readBlock_of level said (by simpa [deep] using found) (by simpa using deep)
    (readLines_left (Nat.lt_succ_of_le left) false [])

end

/-! Whole scalars. -/

theorem chompMark_content {body : List Char} (content : Content body) :
    chompMark body = Chomp.strip.mark := by
  obtain ⟨cs, c, rfl, last⟩ := content.exists_last
  simp [chompMark, last, Chomp.mark]

theorem chompMark_break {body : List Char} {b : Char} (content : Content body)
    (closed : isBreak b = true) : chompMark (body ++ [b]) = Chomp.clip.mark := by
  obtain ⟨cs, c, rfl, last⟩ := content.exists_last
  simp [chompMark, last, closed, Chomp.mark]

theorem chompMark_breaks {body ends : List Char} (margin : ∀ c ∈ ends, isBreak c = true)
    (several : 2 ≤ ends.length ∨ (body = [] ∧ ends ≠ [])) :
    chompMark (body ++ ends) = Chomp.keep.mark := by
  have turned : ∀ c ∈ ends.reverse, isBreak c = true := by simpa using margin
  have long : 2 ≤ ends.reverse.length ∨ (body = [] ∧ ends.reverse ≠ []) := by simpa using several
  unfold chompMark
  rw [List.reverse_append]
  cases backwards : ends.reverse with
  | nil => simp [backwards] at long
  | cons last before =>
    rw [backwards] at turned long
    simp only [List.forall_mem_cons] at turned
    cases before with
    | nil =>
      have empty : body = [] := by simpa using long
      simp [turned.1, empty, Chomp.mark]
    | cons c cs => simp [turned.1, turned.2 c List.mem_cons_self, Chomp.mark]

def needsHint (text : List Char) : Bool :=
  text.head?.any fun c => c == ' ' || isBreak c

theorem writeLiteral_eq {text : List Char} {chomp : Chomp} (said : chompMark text = chomp.mark)
    (depth : Nat) : writeLiteral depth text =
      '|' :: blockText (needsHint text) chomp (writeLiteralLines depth true text) := by
  simp only [writeLiteral, said, blockText, List.append_assoc]
  rfl

theorem closeLine_breaks {ends : List Char} (held : ends ≠ [])
    (margin : ∀ c ∈ ends, isBreak c = true) (front : List Char) :
    closeLine (front ++ ends) = front ++ ends := by
  have ended : endsWith isBreak (front ++ ends) = true := by
    simp [endsWith, List.getLast?_append, List.getLast?_eq_some_getLast held,
      margin _ (List.getLast_mem held)]
  rw [closeLine, if_pos ended]

theorem closeLine_inLine {c : Char} (inLine : isBreak c = false) (front : List Char) :
    closeLine (front ++ [c]) = front ++ [c, '\n'] := by
  simp [closeLine, endsWith, inLine]

theorem closeLine_blockText {ends : List Char} (held : ends ≠ [])
    (margin : ∀ c ∈ ends, isBreak c = true) (hinted : Bool) (chomp : Chomp) (lines : List Char) :
    closeLine ('|' :: blockText hinted chomp (lines ++ ends)) =
      '|' :: blockText hinted chomp (lines ++ ends) := by
  have closed := closeLine_breaks held margin ('|' :: blockText hinted chomp lines)
  rwa [List.cons_append, blockText_append] at closed

theorem writeLiteralLines_concat (depth : Nat) (margin : Bool) (cs : List Char) (c : Char) :
    ∃ front, writeLiteralLines depth margin (cs ++ [c]) = front ++ [c] := by
  induction cs generalizing margin with
  | nil =>
    by_cases line : isBreak c = true
    · exact ⟨[], by simp [writeLiteralLines, line]⟩
    · exact ⟨if margin then indentation depth else [], by simp [writeLiteralLines, line]⟩
  | cons d ds ih =>
    by_cases line : isBreak d = true
    · obtain ⟨front, written⟩ := ih true
      exact ⟨d :: front, by simp [writeLiteralLines, line, written]⟩
    · obtain ⟨front, written⟩ := ih false
      exact ⟨(if margin then indentation depth else []) ++ d :: front,
        by simp [writeLiteralLines, line, written]⟩

theorem closeLine_content {body : List Char} (content : Content body) (hinted : Bool)
    (chomp : Chomp) (depth : Nat) :
    closeLine ('|' :: blockText hinted chomp (writeLiteralLines depth true body)) =
      '|' :: blockText hinted chomp (writeLiteralLines depth true body ++ ['\n']) := by
  obtain ⟨cs, c, rfl, inLine⟩ := content.exists_last
  obtain ⟨front, lines⟩ := writeLiteralLines_concat depth true cs c
  have closed := closeLine_inLine inLine ('|' :: blockText hinted chomp front)
  rw [lines, ← blockText_append]
  simpa [blockText_append] using closed

theorem needsHint_append {body : List Char} (content : Content body) (ends : List Char) :
    needsHint (body ++ ends) = needsHint body := by
  obtain ⟨c, cs, rfl⟩ := content.exists_first
  rfl

theorem first_of_needsHint {text : List Char} (writable : ∀ c ∈ text, isWritable c = true)
    (unhinted : needsHint text = false) (c : Char) (head : text.head? = some c) :
    isBreak c = false ∧ isBlank c = false := by
  simp only [needsHint, head, Option.any_some, Bool.or_eq_false_iff, beq_eq_false_iff_ne]
    at unhinted
  exact ⟨unhinted.2, isBlank_of_isWritable (writable c (List.mem_of_mem_head? head)) unhinted.1⟩

/-- A literal scalar with its line end is read back, whatever stands left of it on the next line. -/
theorem readBlock_write {level : Nat} {text : List Char} (nested : 0 < level) (held : text ≠ [])
    (writable : ∀ c ∈ text, isWritable c = true) :
    ∃ cs, closeLine (writeLiteral (level + 1) text) = '|' :: cs ∧
      ∀ {column : Nat} {next : List Char}, column ≤ level → startsToken next = true →
        readBlock true level (cs ++ (indentation column ++ next)) = some (text, next) := by
  obtain ⟨body, ends, rfl, content, margin⟩ := exists_content text
  -- the mark of the header depends on how many line ends follow the content
  cases content with
  | inl empty =>
    subst empty
    have hinted : needsHint ends = true := by
      cases ends with
      | nil => exact absurd rfl held
      | cons b ends => simp [needsHint, margin b List.mem_cons_self]
    have lines := writeLiteralLines_breaks margin (level + 1) []
    simp only [writeLiteralLines, List.append_nil] at lines
    refine ⟨blockText true .keep ends, ?_, ?_⟩
    · rw [writeLiteral_eq (chompMark_breaks margin (.inr ⟨rfl, held⟩)), List.nil_append, hinted,
        lines]
      exact closeLine_blockText held margin true .keep []
    · intro column next left token
      rw [blockText_append]
      exact readBlock_breaks nested margin left token
  | inr content =>
    have first := first_of_needsHint fun c member => writable c (List.mem_append_left ends member)
    cases ends with
    | nil =>
      have said := chompMark_content content
      refine ⟨blockText (needsHint body) .strip (writeLiteralLines (level + 1) true body ++ ['\n']),
        ?_, ?_⟩
      · rw [List.append_nil, writeLiteral_eq said, closeLine_content content]
      · intro column next left token
        have read := readBlock_content (b := '\n') nested content rfl margin left token first .strip
        rw [blockText_append, List.append_assoc]
        exact read
    | cons b ends =>
      have every := List.forall_mem_cons.1 margin
      have finish (chomp : Chomp) (said : chompMark (body ++ b :: ends) = chomp.mark)
          (kept : chomp.kept [b] ends = b :: ends) : ∃ cs,
          closeLine (writeLiteral (level + 1) (body ++ b :: ends)) = '|' :: cs ∧
          ∀ {column : Nat} {next : List Char}, column ≤ level → startsToken next = true →
            readBlock true level (cs ++ (indentation column ++ next)) =
              some (body ++ b :: ends, next) := by
        refine ⟨blockText (needsHint body) chomp
          (writeLiteralLines (level + 1) true body ++ b :: ends), ?_, ?_⟩
        · rw [writeLiteral_eq said, writeLiteralLines_ends content margin,
            needsHint_append content, closeLine_blockText (by simp) margin]
        · intro column next left token
          have read := readBlock_content nested content every.1 every.2 left token first chomp
          rw [blockText_append, List.append_assoc]
          rwa [kept] at read
      cases ends with
      | nil => exact finish .clip (chompMark_break content every.1) rfl
      | cons e ends => exact finish .keep (chompMark_breaks margin (.inl (by simp))) rfl

end CheatCodes.Yaml
