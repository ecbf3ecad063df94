import CheatCodes.Text.Blank
/-!
Pieces and words. A separator stands in no piece and parts the pieces on its two sides; so blanks
keep the words around them apart, and a text without blanks is a word. Words that are joined by
blanks are found again, whatever blanks those are, and the words of a text hold all of it but the
blanks.
-/
namespace CheatCodes.Text

variable {separates : Char → Bool}

theorem pieces_eq_splitOnP (cs : List Char) : pieces separates cs = cs.splitOnP separates := by
  induction cs with
  | nil => simp [pieces]
  | cons c cs ih => rw [pieces, List.splitOnP_cons_eq_if_modifyHead, ih]

theorem pieces_append_separator {s : Char} (h : separates s = true) (first second : List Char) :
    pieces separates (first ++ s :: second) =
      pieces separates first ++ pieces separates second := by
  simp only [pieces_eq_splitOnP, List.splitOnP_append_cons first second h]

theorem pieces_of_whole {cs : List Char} (whole : ∀ c ∈ cs, separates c = false) :
    pieces separates cs = [cs] := by
  rw [pieces_eq_splitOnP, List.splitOnP_eq_singleton whole]

theorem of_mem_pieces {cs piece : List Char} (h : piece ∈ pieces separates cs) :
    ∀ c ∈ piece, separates c = false ∧ c ∈ cs := by
  induction cs generalizing piece with
  | nil =>
    intro c member
    rw [pieces, List.mem_singleton] at h
    rw [h] at member
    cases member
  | cons d cs ih =>
    intro c member
    have later (p : List Char) (listed : p ∈ pieces separates cs) (inside : c ∈ p) :
        separates c = false ∧ c ∈ d :: cs :=
      ⟨(ih listed c inside).1, List.mem_cons_of_mem d (ih listed c inside).2⟩
    by_cases cut : separates d = true
    · rw [pieces, if_pos cut] at h
      rcases List.mem_cons.1 h with empty | listed
      · rw [empty] at member
        cases member
      · exact later piece listed member
    · obtain ⟨p, more, eq⟩ := List.exists_cons_of_ne_nil (pieces_ne_nil separates cs)
      rw [pieces, if_neg cut, eq, List.modifyHead_cons] at h
      rw [eq] at later
      rcases List.mem_cons.1 h with longer | listed
      · rw [longer] at member
        rcases List.mem_cons.1 member with here | inside
        · rw [here]
          exact ⟨Bool.eq_false_iff.2 cut, List.mem_cons_self⟩
        · exact later p List.mem_cons_self inside
      · exact later piece (List.mem_cons_of_mem p listed) member

/-! Words. -/

theorem words_append_blank {b : Char} (blank : isBlank b = true) (first second : List Char) :
    words (first ++ b :: second) = words first ++ words second := by
  rw [words, pieces_append_separator blank, List.filter_append, words, words]

theorem words_of_dark {word : List Char} (nonempty : word ≠ [])
    (dark : ∀ c ∈ word, isBlank c = false) : words word = [word] := by
  simp [words, pieces_of_whole dark, nonempty]

theorem dark_of_mem_words {cs word : List Char} (h : word ∈ words cs) :
    ∀ c ∈ word, isBlank c = false :=
  fun c member => (of_mem_pieces (List.mem_filter.1 h).1 c member).1

theorem flatten_pieces (cs : List Char) :
    (pieces separates cs).flatten = cs.filter fun c => !separates c := by
  induction cs with
  | nil => rfl
  | cons c cs ih =>
    obtain ⟨piece, more, cut⟩ := List.exists_cons_of_ne_nil (pieces_ne_nil separates cs)
    by_cases h : separates c = true
    · simp [pieces, h, ih]
    · simpa [pieces, h, cut] using ih

theorem flatten_words (cs : List Char) : (words cs).flatten = cs.filter fun c => !isBlank c := by
  rw [words, List.flatten_filter_not_isEmpty, flatten_pieces]

/-! Blanks between words. -/

structure Blanks where
  chars : List Char
  nonempty : chars ≠ []
  blank : ∀ c ∈ chars, isBlank c = true

theorem words_blank_append {cs : List Char} (blank : ∀ c ∈ cs, isBlank c = true)
    (rest : List Char) : words (cs ++ rest) = words rest := by
  induction cs with
  | nil => rfl
  | cons c cs ih =>
    have first : words ([] ++ c :: (cs ++ rest)) = words [] ++ words (cs ++ rest) :=
      words_append_blank (blank c List.mem_cons_self) [] (cs ++ rest)
    exact first.trans (ih fun d later => blank d (List.mem_cons_of_mem c later))

theorem words_append_blanks (first second : List Char) (gap : Blanks) :
    words (first ++ gap.chars ++ second) = words first ++ words second := by
  obtain ⟨c, more, chars⟩ := List.exists_cons_of_ne_nil gap.nonempty
  have blank := gap.blank
  rw [chars] at blank ⊢
  rw [List.append_assoc, List.cons_append, words_append_blank (blank c List.mem_cons_self),
    words_blank_append fun d later => blank d (List.mem_cons_of_mem c later)]

/-- Words in a row with blanks between every two, the first blanks first. -/
def joined : (Nat → Blanks) → List (List Char) → List Char
  | _, [] => []
  | _, [word] => word
  | gaps, word :: next :: more =>
    word ++ (gaps 0).chars ++ joined (fun n => gaps (n + 1)) (next :: more)

theorem words_joined {ws : List (List Char)} (nonempty : ∀ word ∈ ws, word ≠ [])
    (dark : ∀ word ∈ ws, ∀ c ∈ word, isBlank c = false) (gaps : Nat → Blanks) :
    words (joined gaps ws) = ws := by
  induction ws generalizing gaps with
  | nil => rfl
  | cons word ws ih =>
    have first : words word = [word] :=
      words_of_dark (nonempty word List.mem_cons_self) (dark word List.mem_cons_self)
    cases ws with
    | nil => exact first
    | cons next more =>
      rw [joined, words_append_blanks, first, ih
        (fun other listed => nonempty other (List.mem_cons_of_mem word listed))
        (fun other listed => dark other (List.mem_cons_of_mem word listed))]
      rfl

end CheatCodes.Text
