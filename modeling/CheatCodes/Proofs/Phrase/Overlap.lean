import CheatCodes.Proofs.Phrase.Progress
/-!
Which phrases are recognised whenever they are typed in one go. Keys pressed before may have left
a match, and the phrase then runs on from there; a character that does not continue it keeps at
most itself. So a phrase is safe exactly if it begins again, for as long as it lasts, wherever its
first character comes again.
-/
namespace CheatCodes

namespace PhraseMatcher

def completes (m : PhraseMatcher) : List Char → Bool
  | [] => false
  | c :: cs => (m.type c).1 || (m.type c).2.completes cs

theorem type_phrase (m : PhraseMatcher) (c : Char) : (m.type c).2.phrase = m.phrase := by
  rcases m.type_cases c with ⟨i, _, found, eq⟩ | eq
  · rcases m.advance_cases found with ⟨_, advance⟩ | ⟨_, advance⟩
    · rw [eq, advance]
    · rw [eq, advance]
      rfl
  · rw [eq]
    rfl

theorem type_next {p : List Char} {i : Nat} {c : Char} (found : p[i]? = some c) :
    type ⟨p, i⟩ c = advance ⟨p, i⟩ i := by
  rw [type, if_pos found]

theorem type_first {p : List Char} {i : Nat} {c : Char} (differs : p[i]? ≠ some c)
    (found : p[0]? = some c) : type ⟨p, i⟩ c = advance ⟨p, i⟩ 0 := by
  rw [type, if_neg differs, if_pos found]

theorem completes_append_left {m : PhraseMatcher} {cs : List Char} (h : m.completes cs = true)
    (more : List Char) : m.completes (cs ++ more) = true := by
  induction cs generalizing m with
  | nil => cases h
  | cons c cs ih =>
    simp only [completes, Bool.or_eq_true] at h
    simp only [List.cons_append, completes, Bool.or_eq_true]
    exact h.imp_right ih

theorem length_le_of_completes {m : PhraseMatcher} {cs : List Char} (h : m.completes cs = true) :
    m.phrase.length ≤ m.progress + cs.length := by
  induction cs generalizing m with
  | nil => cases h
  | cons c cs ih =>
    simp only [completes, Bool.or_eq_true] at h
    simp only [List.length_cons]
    rcases m.type_cases c with ⟨i, origin, found, eq⟩ | eq
    · have reached : i ≤ m.progress := by omega
      rcases m.advance_cases found with ⟨_, advance⟩ | ⟨last, _⟩
      · have later : (m.type c).2.completes cs = true := by
          simpa [eq, advance] using h
        have bound := ih later
        rw [type_phrase, eq, advance] at bound
        dsimp only at bound
        omega
      · omega
    · have later : (m.type c).2.completes cs = true := by
        simpa [eq] using h
      have bound := ih later
      rw [type_phrase, eq] at bound
      simp only [reset] at bound
      omega

theorem type_of_mismatch {p : List Char} {i : Nat} {c : Char} (differs : p[i]? ≠ some c) :
    type ⟨p, i⟩ c = type ⟨p, 0⟩ c := by
  by_cases first : p[0]? = some c
  · rw [type_first differs first, type_next first]
    rfl
  · rw [type, if_neg differs, if_neg first, type, if_neg first, if_neg first]
    rfl

theorem progress_type_of_mismatch {p : List Char} {i : Nat} {c : Char}
    (differs : p[i]? ≠ some c) : (type ⟨p, i⟩ c).2.progress ≤ 1 := by
  rw [type_of_mismatch differs]
  rcases type_cases ⟨p, 0⟩ c with ⟨j, origin, found, eq⟩ | eq
  · have zero : j = 0 := origin.elim id id
    rw [eq, zero, advance]
    split
    · exact Nat.le_refl 1
    · exact Nat.zero_le 1
  · rw [eq]
    exact Nat.zero_le 1

theorem length_le_of_mismatch {p : List Char} {i : Nat} {c : Char} {cs : List Char}
    (differs : p[i]? ≠ some c) (h : completes ⟨p, i⟩ (c :: cs) = true) :
    p.length ≤ 1 + cs.length := by
  rw [completes, type_of_mismatch differs, ← completes] at h
  have bound := length_le_of_completes h
  rw [List.length_cons] at bound
  dsimp only at bound
  omega

theorem completes_rest {p : List Char} {i : Nat} (inside : i < p.length) :
    completes ⟨p, i⟩ (p.drop i) = true := by
  induction rest : p.drop i generalizing i with
  | nil => exact absurd inside (Nat.not_lt.2 (List.drop_eq_nil_iff.1 rest))
  | cons c cs ih =>
    have head : p[i]? = some c := by rw [← List.head?_drop, rest]; rfl
    have tail : p.drop (i + 1) = cs := by rw [← List.tail_drop, rest]; rfl
    rw [completes, type_next head]
    rcases advance_cases ⟨p, i⟩ head with ⟨more, advance⟩ | ⟨_, advance⟩
    · rw [advance]
      exact ih more tail
    · rw [advance]
      rfl

/-- A match that is ahead of the phrase as it is typed has to run on to the end. -/
theorem drop_prefix_of_completes {p : List Char} {i k : Nat} (ahead : 0 < i) (begun : 0 < k)
    (inside : i + k < p.length) (h : completes ⟨p, i + k⟩ (p.drop k) = true) :
    p.drop (i + k) <+: p.drop k := by
  induction rest : p.drop (i + k) generalizing k with
  | nil => exact List.nil_prefix
  | cons c cs ih =>
    have head : p[i + k]? = some c := by rw [← List.head?_drop, rest]; rfl
    have tail : p.drop (i + (k + 1)) = cs := by
      rw [← Nat.add_assoc, ← List.tail_drop, rest]
      rfl
    have typed : p.drop k = p[k] :: p.drop (k + 1) := List.drop_eq_getElem_cons (by omega)
    rw [typed] at h ⊢
    by_cases same : c = p[k]
    · rw [← same, completes, type_next head, Bool.or_eq_true] at h
      rw [← same, List.cons_prefix_cons]
      refine ⟨rfl, ?_⟩
      rcases advance_cases ⟨p, i + k⟩ head with ⟨more, advance⟩ | ⟨last, _⟩
      · rw [advance] at h
        exact ih (by omega) more (by simpa [Nat.add_assoc] using h) tail
      · change i + k + 1 = p.length at last
        rw [← tail, List.drop_eq_nil_of_le (by omega)]
        exact List.nil_prefix
    · -- Too few characters are left to type after the match has fallen back.
      have differs : p[i + k]? ≠ some p[k] := by
        rw [head]
        exact fun eq => same (Option.some.inj eq)
      have bound := length_le_of_mismatch differs h
      rw [List.length_drop] at bound
      omega

/-- Wherever its first character comes again, the phrase begins again for as long as it lasts. -/
def BeginsAgain (p : List Char) : Prop :=
  ∀ i < p.length, 0 < i → p[i]? = p[0]? → p.drop i <+: p

theorem cons_drop_one {p : List Char} (nonempty : 0 < p.length) : p[0] :: p.drop 1 = p := by
  simpa using (List.drop_eq_getElem_cons nonempty).symm

theorem beginsAgain_of_completes {p : List Char}
    (h : ∀ i < p.length, completes ⟨p, i⟩ p = true) : BeginsAgain p := by
  intro i inside ahead same
  have whole : p[0] :: p.drop 1 = p := cons_drop_one (by omega)
  have first : p[i]? = some p[0] := by rw [same, List.getElem?_eq_getElem]
  have rest : p.drop i = p[0] :: p.drop (i + 1) := by
    rw [List.drop_eq_getElem_cons inside]
    congr 1
    exact Option.some.inj (by rw [← first, List.getElem?_eq_getElem inside])
  have done : completes ⟨p, i⟩ (p[0] :: p.drop 1) = true := by
    rw [whole]
    exact h i inside
  have later : p.drop (i + 1) <+: p.drop 1 := by
    rcases advance_cases ⟨p, i⟩ first with ⟨more, advance⟩ | ⟨last, _⟩
    · refine drop_prefix_of_completes ahead Nat.one_pos more ?_
      simpa [completes, type_next first, advance] using done
    · change i + 1 = p.length at last
      rw [List.drop_eq_nil_of_le (by omega)]
      exact List.nil_prefix
  have again : p[0] :: p.drop (i + 1) <+: p[0] :: p.drop 1 :=
    List.cons_prefix_cons.2 ⟨rfl, later⟩
  rwa [whole, ← rest] at again

theorem completes_of_beginsAgain {p : List Char} (again : BeginsAgain p) {i : Nat}
    (inside : i < p.length) : completes ⟨p, i⟩ p = true := by
  have first : p[0]? = some p[0] := List.getElem?_eq_getElem (by omega)
  by_cases same : p[i]? = p[0]?
  · have begins : p.drop i <+: p := by
      rcases Nat.eq_zero_or_pos i with rfl | ahead
      · exact List.prefix_rfl
      · exact again i inside ahead same
    obtain ⟨more, eq⟩ := begins
    have done := completes_append_left (completes_rest inside) more
    rwa [eq] at done
  · have fallback : type ⟨p, i⟩ p[0] = advance ⟨p, i⟩ 0 := type_first (by rwa [← first]) first
    have done : completes ⟨p, i⟩ (p[0] :: p.drop 1) = true := by
      rw [completes, fallback]
      rcases advance_cases ⟨p, i⟩ first with ⟨more, advance⟩ | ⟨_, advance⟩
      · rw [advance]
        exact completes_rest more
      · rw [advance]
        rfl
    rwa [cons_drop_one] at done

end PhraseMatcher

namespace KeyTracker

theorem track_typed (t : KeyTracker) (c : Char) :
    t.track (.typed c) = (if (t.matcher.type c).1 then some .toggleCheatMode else none,
      { t with matcher := (t.matcher.type c).2 }) := rfl

theorem mem_trackAll_typed {t : KeyTracker} {cs : List Char} :
    some .toggleCheatMode ∈ (t.trackAll (cs.map .typed)).1 ↔ t.matcher.completes cs = true := by
  induction cs generalizing t with
  | nil => simp [trackAll, PhraseMatcher.completes]
  | cons c cs ih =>
    simp only [List.map_cons, trackAll, track_typed, List.mem_cons, ih, PhraseMatcher.completes,
      Bool.or_eq_true]
    cases (t.matcher.type c).1 <;> simp

theorem trackAll_beginning (c : TrackerConfig) {i : Nat} (inside : i < c.phrase.toList.length) :
    ((ofConfig c).trackAll ((c.phrase.toList.take i).map .typed)).2.matcher =
      ⟨c.phrase.toList, i⟩ := by
  induction i with
  | zero => rfl
  | succ i ih =>
    have found : c.phrase.toList[i]? = some c.phrase.toList[i] :=
      List.getElem?_eq_getElem (by omega)
    have more : PhraseMatcher.advance ⟨c.phrase.toList, i⟩ i =
        (false, ⟨c.phrase.toList, i + 1⟩) := by
      rw [PhraseMatcher.advance, if_pos inside]
    rw [List.take_add_one, found, Option.toList_some, List.map_append, trackAll_append]
    simp only [List.map_cons, List.map_nil, trackAll, track_typed]
    rw [ih (by omega), PhraseMatcher.type_next found, more]

/-- A phrase is recognised after every history, typed in one go, exactly if it begins again, for
as long as it lasts, wherever its first character comes again. -/
theorem typed_phrase_recognised_iff (c : TrackerConfig) :
    (∀ history : List KeyEvent, some .toggleCheatMode ∈
      (((ofConfig c).trackAll history).2.trackAll (c.phrase.toList.map .typed)).1) ↔
    c.phrase.toList ≠ [] ∧ PhraseMatcher.BeginsAgain c.phrase.toList := by
  simp only [mem_trackAll_typed]
  constructor
  · intro h
    have nonempty : c.phrase.toList ≠ [] := by
      intro empty
      have := h []
      rw [empty] at this
      cases this
    refine ⟨nonempty, PhraseMatcher.beginsAgain_of_completes fun i inside => ?_⟩
    have done := h ((c.phrase.toList.take i).map .typed)
    rwa [trackAll_beginning c inside] at done
  · rintro ⟨nonempty, again⟩ history
    obtain ⟨k, state⟩ := (ofConfig c).trackAll_matched history
    have bounded := (follows (t := ofConfig c) rfl history).bounded
    rw [state] at bounded
    rw [state]
    change k = 0 ∨ k < c.phrase.toList.length at bounded
    have inside : k < c.phrase.toList.length := by
      rcases bounded with zero | inside
      · rw [zero]
        exact List.length_pos_iff.2 nonempty
      · exact inside
    exact PhraseMatcher.completes_of_beginsAgain again inside

/-- After an `a`, the phrase `aab` goes unrecognised: its two first characters are still matched
when the third `a` comes, and only that one is kept. -/
theorem aab_unrecognised :
    let t := ofConfig { TrackerConfig.standard with phrase := "aab" }
    some .toggleCheatMode ∉
      ((t.trackAll [.typed 'a']).2.trackAll ("aab".toList.map .typed)).1 := by
  decide

end KeyTracker

end CheatCodes
