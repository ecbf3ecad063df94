import CheatCodes.Proofs.Phrase.Overlap
/-!
The tracker beside a reference that forgets nothing. The reference keeps all that was typed since
the phrase was interrupted or completed and looks for the longest beginning of the phrase at its
end. The tracker counts the same characters as long as a mismatch leaves at most one of them, and
the first phrase that loses more can be told from its beginnings alone.
-/
namespace CheatCodes

/-- The longest proper beginning of the phrase that ends the text has `n` characters. -/
structure LongestEnding (phrase text : List Char) (n : Nat) : Prop where
  proper : n < phrase.length
  ends : phrase.take n <:+ text
  longest : ∀ m < phrase.length, phrase.take m <:+ text → m ≤ n

/-- What was typed since the phrase was interrupted or completed. -/
def typedSince (steps : UInt8) (phrase : List Char) (es : List KeyEvent) : List Char :=
  es.foldl (fun text e =>
    if e.types steps then if phrase <:+ text ++ [e.c] then [] else text ++ [e.c] else []) []

theorem typedSince_concat (steps : UInt8) (phrase : List Char) (es : List KeyEvent)
    (e : KeyEvent) :
    typedSince steps phrase (es ++ [e]) =
      if e.types steps then
        if phrase <:+ typedSince steps phrase es ++ [e.c] then []
        else typedSince steps phrase es ++ [e.c]
      else [] := by
  rw [typedSince, List.foldl_append]
  rfl

theorem typedSince_typed (steps : UInt8) {phrase text : List Char}
    (short : text.length < phrase.length) :
    typedSince steps phrase (text.map .typed) = text := by
  induction text using List.reverseRecOn with
  | nil => rfl
  | append_singleton text c ih =>
    rw [List.length_append, List.length_singleton] at short
    have before := ih (by omega)
    have spelled : ¬ phrase <:+ text ++ [c] := by
      intro ends
      have bound := ends.length_le
      rw [List.length_append, List.length_singleton] at bound
      omega
    have plain : (KeyEvent.typed c).types steps = true := rfl
    rw [List.map_append, List.map_singleton, typedSince_concat, before, if_pos plain]
    exact if_neg spelled

theorem take_succ_suffix_iff {phrase text : List Char} {m : Nat} {c : Char}
    (inside : m < phrase.length) :
    phrase.take (m + 1) <:+ text ++ [c] ↔ phrase[m]? = some c ∧ phrase.take m <:+ text := by
  have single : [phrase[m]].length = [c].length := rfl
  rw [← List.take_append_getElem inside, List.suffix_append_inj_of_length_eq single,
    List.getElem?_eq_getElem inside, and_comm]
  simp

namespace LongestEnding

variable {phrase text : List Char} {i : Nat} {c : Char}

theorem nil (nonempty : phrase ≠ []) : LongestEnding phrase [] 0 where
  proper := List.length_pos_iff.2 nonempty
  ends := List.nil_suffix
  longest m inside ends := by
    have bound := ends.length_le
    rw [List.length_take, List.length_nil] at bound
    omega

theorem spelled_iff (h : LongestEnding phrase text i) :
    phrase <:+ text ++ [c] ↔ i + 1 = phrase.length ∧ phrase[i]? = some c := by
  have proper := h.proper
  have last : phrase.length - 1 < phrase.length := by omega
  have whole : phrase.take (phrase.length - 1 + 1) = phrase := List.take_of_length_le (by omega)
  rw [← whole, take_succ_suffix_iff last, whole]
  constructor
  · rintro ⟨found, ends⟩
    have reached : i = phrase.length - 1 := by
      have := h.longest _ last ends
      omega
    exact ⟨by omega, by rwa [reached]⟩
  · rintro ⟨length, found⟩
    have reached : phrase.length - 1 = i := by omega
    rw [reached]
    exact ⟨found, h.ends⟩

theorem next (h : LongestEnding phrase text i) (found : phrase[i]? = some c)
    (more : i + 1 < phrase.length) : LongestEnding phrase (text ++ [c]) (i + 1) where
  proper := more
  ends := (take_succ_suffix_iff h.proper).2 ⟨found, h.ends⟩
  longest m inside ends := by
    cases m with
    | zero => exact Nat.zero_le _
    | succ m =>
      have before := ((take_succ_suffix_iff (by omega)).1 ends).2
      have := h.longest m (by omega) before
      omega

theorem fallback (h : LongestEnding phrase text i) (differs : phrase[i]? ≠ some c) {m : Nat}
    (inside : m < phrase.length) (ends : phrase.take (m + 1) <:+ text ++ [c]) :
    m < i ∧ phrase[m]? = some c ∧ phrase.take (m + 1) <:+ phrase.take i ++ [c] := by
  obtain ⟨found, before⟩ := (take_succ_suffix_iff inside).1 ends
  have reached : m ≤ i := h.longest m inside before
  have apart : m ≠ i := by
    rintro rfl
    exact differs found
  have within : phrase.take m <:+ phrase.take i := by
    apply List.suffix_of_suffix_length_le before h.ends
    rw [List.length_take, List.length_take]
    omega
  exact ⟨by omega, found, (take_succ_suffix_iff inside).2 ⟨found, within⟩⟩

/-! What is left where a mismatch leaves at most one character. -/

theorem restart (first : phrase[0]? = some c) (more : 1 < phrase.length)
    (few : ∀ m < phrase.length, phrase.take (m + 1) <:+ text ++ [c] → m = 0) :
    LongestEnding phrase (text ++ [c]) 1 where
  proper := more
  ends := (take_succ_suffix_iff (by omega)).2 ⟨first, List.nil_suffix⟩
  longest m inside ends := by
    cases m with
    | zero => exact Nat.zero_le 1
    | succ m =>
      have here := few m (by omega) ends
      omega

theorem reset (nonempty : phrase ≠ []) (other : phrase[0]? ≠ some c)
    (few : ∀ m < phrase.length, phrase.take (m + 1) <:+ text ++ [c] → m = 0) :
    LongestEnding phrase (text ++ [c]) 0 where
  proper := List.length_pos_iff.2 nonempty
  ends := List.nil_suffix
  longest m inside ends := by
    cases m with
    | zero => exact Nat.le_refl 0
    | succ m =>
      have here := few m (by omega) ends
      rw [here] at ends
      have first := (take_succ_suffix_iff (List.length_pos_iff.2 nonempty)).1 ends
      exact absurd first.1 other

end LongestEnding

namespace PhraseMatcher

/-- Some character that does not continue a beginning of the phrase makes it end in two or more
characters that begin the phrase. -/
def LosesMatch (phrase : List Char) : Prop :=
  ∃ i < phrase.length, ∃ c, phrase[i]? ≠ some c ∧
    ∃ text, 2 ≤ text.length ∧ text <:+ phrase.take i ++ [c] ∧ text <+: phrase

theorem fallback_eq_zero {phrase text : List Char} {i m : Nat} {c : Char}
    (lossless : ¬ LosesMatch phrase) (h : LongestEnding phrase text i)
    (differs : phrase[i]? ≠ some c) (inside : m < phrase.length)
    (ends : phrase.take (m + 1) <:+ text ++ [c]) : m = 0 := by
  by_contra more
  obtain ⟨_, _, within⟩ := h.fallback differs inside ends
  apply lossless
  refine ⟨i, h.proper, c, differs, phrase.take (m + 1), ?_, within, List.take_prefix _ _⟩
  rw [List.length_take]
  omega

theorem type_longestEnding {phrase text : List Char} {i : Nat} {c : Char}
    (lossless : ¬ LosesMatch phrase) (h : LongestEnding phrase text i) :
    ((type ⟨phrase, i⟩ c).1 = true ↔ phrase <:+ text ++ [c]) ∧
    LongestEnding phrase (if phrase <:+ text ++ [c] then [] else text ++ [c])
      (type ⟨phrase, i⟩ c).2.progress := by
  have nonempty : phrase ≠ [] := List.ne_nil_of_length_pos (by have := h.proper; omega)
  by_cases found : phrase[i]? = some c
  · rw [type_next found]
    rcases advance_cases ⟨phrase, i⟩ found with ⟨more, advance⟩ | ⟨last, advance⟩
    · have unfinished : ¬ phrase <:+ text ++ [c] := by
        intro spelled
        have := (h.spelled_iff.1 spelled).1
        dsimp only at more
        omega
      rw [advance, if_neg unfinished]
      exact ⟨iff_of_false Bool.false_ne_true unfinished, h.next found more⟩
    · have spelled : phrase <:+ text ++ [c] := h.spelled_iff.2 ⟨last, found⟩
      rw [advance, if_pos spelled]
      exact ⟨iff_of_true rfl spelled, .nil nonempty⟩
  · have unfinished : ¬ phrase <:+ text ++ [c] := fun spelled => found (h.spelled_iff.1 spelled).2
    have few (m : Nat) (inside : m < phrase.length)
        (ends : phrase.take (m + 1) <:+ text ++ [c]) : m = 0 :=
      fallback_eq_zero lossless h found inside ends
    rw [if_neg unfinished]
    by_cases first : phrase[0]? = some c
    · have more : 1 < phrase.length := by
        have proper := h.proper
        have ahead : i ≠ 0 := by
          rintro rfl
          exact found first
        omega
      have advance : advance ⟨phrase, i⟩ 0 = (false, ⟨phrase, 1⟩) := by
        rw [PhraseMatcher.advance, if_pos more]
      rw [type_first found first, advance]
      exact ⟨iff_of_false Bool.false_ne_true unfinished, .restart first more few⟩
    · have reset : type ⟨phrase, i⟩ c = (false, ⟨phrase, 0⟩) := by
        rw [type, if_neg found, if_neg first]
        rfl
      rw [reset]
      exact ⟨iff_of_false Bool.false_ne_true unfinished, .reset nonempty first few⟩

theorem not_suffix_of_mismatch {phrase : List Char} {i : Nat} {c : Char}
    (inside : i < phrase.length) (differs : phrase[i]? ≠ some c) :
    ¬ phrase <:+ phrase.take i ++ [c] := by
  intro ends
  have bound := ends.length_le
  rw [List.length_append, List.length_take, List.length_singleton] at bound
  have whole : phrase.take (i + 1) = phrase := List.take_of_length_le (by omega)
  rw [← whole, List.take_take, Nat.min_eq_left (Nat.le_succ i)] at ends
  exact differs ((take_succ_suffix_iff inside).1 ends).1

theorem LosesMatch.proper {phrase : List Char} (loses : LosesMatch phrase) :
    ∃ i < phrase.length, ∃ c, phrase[i]? ≠ some c ∧
      ∃ n < phrase.length, 2 ≤ n ∧ phrase.take n <:+ phrase.take i ++ [c] := by
  obtain ⟨i, inside, c, differs, text, long, ends, begins⟩ := loses
  have taken : text = phrase.take text.length := List.prefix_iff_eq_take.1 begins
  have apart : text.length ≠ phrase.length := by
    intro whole
    rw [begins.eq_of_length whole] at ends
    exact not_suffix_of_mismatch inside differs ends
  have bound := begins.length_le
  rw [taken] at ends
  exact ⟨i, inside, c, differs, text.length, by omega, long, ends⟩

theorem not_losesMatch {phrase : List Char}
    (once : ∀ i < phrase.length, 0 < i → phrase[i]? ≠ phrase[0]?) : ¬ LosesMatch phrase := by
  intro loses
  obtain ⟨i, inside, c, differs, n, _, long, ends⟩ := loses.proper
  obtain ⟨m, rfl⟩ : ∃ m, n = m + 1 := ⟨n - 1, by omega⟩
  obtain ⟨found, before⟩ := (take_succ_suffix_iff (by omega)).1 ends
  have apart : m ≠ i := by
    rintro rfl
    exact differs found
  have short := before.length_le
  rw [List.length_take, List.length_take] at short
  -- The beginning that ends the matched one starts with the first character, further on.
  obtain ⟨skipped, split⟩ := before
  have length := congrArg List.length split
  rw [List.length_append, List.length_take, List.length_take] at length
  apply once skipped.length (by omega) (by omega)
  have entry := congrArg (·[skipped.length]?) split
  rw [List.getElem?_append_right (Nat.le_refl _), Nat.sub_self,
    List.getElem?_take_of_lt (by omega), List.getElem?_take_of_lt (by omega)] at entry
  exact entry.symm

end PhraseMatcher

namespace KeyTracker

def FollowsReference (c : TrackerConfig) : Prop :=
  ∀ es : List KeyEvent,
    let text := typedSince c.speedSteps c.phrase.toList es
    let t := ((ofConfig c).trackAll es).2
    LongestEnding c.phrase.toList text t.progress ∧
    ∀ e, (t.track e).1 = some .toggleCheatMode ↔
      e.types c.speedSteps = true ∧ c.phrase.toList <:+ text ++ [e.c]

theorem track_longestEnding {c : TrackerConfig} {text : List Char} {i : Nat}
    (lossless : ¬ PhraseMatcher.LosesMatch c.phrase.toList)
    (h : LongestEnding c.phrase.toList text i) (e : KeyEvent) :
    (((ofConfig c).matched i).track e).1 = some .toggleCheatMode ↔
      e.types c.speedSteps = true ∧ c.phrase.toList <:+ text ++ [e.c] := by
  by_cases typed : e.types c.speedSteps = true
  · rw [track_of_types (t := (ofConfig c).matched i) typed,
      ← (PhraseMatcher.type_longestEnding lossless h).1]
    change (if (PhraseMatcher.type ⟨c.phrase.toList, i⟩ e.c).1 then
      some CheatAction.toggleCheatMode else none) = some CheatAction.toggleCheatMode ↔ _
    simp [typed]
  · have other := (track_of_not_types (t := (ofConfig c).matched i) typed).1
    exact iff_of_false other fun both => typed both.1

theorem trackAll_longestEnding {c : TrackerConfig} (nonempty : c.phrase.toList ≠ [])
    (lossless : ¬ PhraseMatcher.LosesMatch c.phrase.toList) (es : List KeyEvent) :
    LongestEnding c.phrase.toList (typedSince c.speedSteps c.phrase.toList es)
      ((ofConfig c).trackAll es).2.progress := by
  induction es using List.reverseRecOn with
  | nil => exact .nil nonempty
  | append_singleton es e ih =>
    -- Of all the presses before, the tracker keeps a number of matched characters.
    obtain ⟨k, state⟩ := (ofConfig c).trackAll_matched es
    rw [state] at ih
    rw [trackAll_append, typedSince_concat, state]
    simp only [trackAll]
    by_cases typed : e.types c.speedSteps = true
    · rw [track_of_types (t := (ofConfig c).matched k) typed, if_pos typed]
      exact (PhraseMatcher.type_longestEnding lossless ih).2
    · rw [(track_of_not_types (t := (ofConfig c).matched k) typed).2, if_neg typed]
      exact .nil nonempty

theorem followsReference_of_lossless {c : TrackerConfig} (nonempty : c.phrase.toList ≠ [])
    (lossless : ¬ PhraseMatcher.LosesMatch c.phrase.toList) : FollowsReference c := by
  intro es text t
  have longest := trackAll_longestEnding nonempty lossless es
  obtain ⟨k, state⟩ := (ofConfig c).trackAll_matched es
  refine ⟨longest, fun e => ?_⟩
  have here : t = (ofConfig c).matched k := state
  rw [state] at longest
  rw [here]
  exact track_longestEnding lossless longest e

theorem typedSince_mismatch (c : TrackerConfig) {i : Nat} {d : Char}
    (inside : i < c.phrase.toList.length) (differs : c.phrase.toList[i]? ≠ some d) :
    typedSince c.speedSteps c.phrase.toList
        ((c.phrase.toList.take i).map .typed ++ [.typed d]) =
      c.phrase.toList.take i ++ [d] := by
  have short : (c.phrase.toList.take i).length < c.phrase.toList.length := by
    rw [List.length_take]
    omega
  have plain : (KeyEvent.typed d).types c.speedSteps = true := rfl
  rw [typedSince_concat, typedSince_typed c.speedSteps short, if_pos plain]
  exact if_neg (PhraseMatcher.not_suffix_of_mismatch inside differs)

theorem progress_trackAll_mismatch (c : TrackerConfig) {i : Nat} {d : Char}
    (inside : i < c.phrase.toList.length) (differs : c.phrase.toList[i]? ≠ some d) :
    ((ofConfig c).trackAll
      ((c.phrase.toList.take i).map .typed ++ [.typed d])).2.progress ≤ 1 := by
  rw [trackAll_append]
  simp only [trackAll, track_typed, trackAll_beginning c inside]
  exact PhraseMatcher.progress_type_of_mismatch differs

theorem lossless_of_followsReference {c : TrackerConfig} (follows : FollowsReference c) :
    ¬ PhraseMatcher.LosesMatch c.phrase.toList := by
  intro loses
  obtain ⟨i, inside, d, differs, n, short, long, ends⟩ := loses.proper
  have few := progress_trackAll_mismatch c inside differs
  have longest := (follows ((c.phrase.toList.take i).map .typed ++ [.typed d])).1
  rw [typedSince_mismatch c inside differs] at longest
  have many := longest.longest n short ends
  omega

/-- The tracker is in step with the reference on all key presses exactly if no mismatch loses two
matched characters; so it is if the first character of the phrase does not come again. -/
theorem followsReference_iff (c : TrackerConfig) (nonempty : c.phrase.toList ≠ []) :
    (FollowsReference c ↔ ¬ PhraseMatcher.LosesMatch c.phrase.toList) ∧
    ((∀ i < c.phrase.toList.length, 0 < i → c.phrase.toList[i]? ≠ c.phrase.toList[0]?) →
      FollowsReference c) := by
  refine ⟨⟨lossless_of_followsReference, followsReference_of_lossless nonempty⟩, fun once => ?_⟩
  exact followsReference_of_lossless nonempty (PhraseMatcher.not_losesMatch once)

theorem followsReference_iff_winter :
    let winter := TrackerConfig.standard
    let aab := { TrackerConfig.standard with phrase := "aab" }
    winter.phrase.toList ≠ [] ∧ aab.phrase.toList ≠ [] ∧
    FollowsReference winter ∧ ¬ FollowsReference aab := by
  intro winter aab
  have typable : winter.phrase.toList ≠ [] := by decide
  have typable' : aab.phrase.toList ≠ [] := by decide
  refine ⟨typable, typable', (followsReference_iff winter typable).2 (by decide), ?_⟩
  intro follows
  apply (followsReference_iff aab typable').1.1 follows
  exact ⟨2, by decide, 'a', by decide, ['a', 'a'], by decide, by decide, by decide⟩

end KeyTracker

end CheatCodes
