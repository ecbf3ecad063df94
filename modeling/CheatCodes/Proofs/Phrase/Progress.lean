import CheatCodes.Recognition
import Mathlib.Data.List.Induction
/-!
What a tracker's progress says of the keys that were pressed. The matched characters are those of
the last presses, and a completed phrase is spelled by presses that no other completion shares.
-/
namespace CheatCodes

namespace PhraseMatcher

theorem advance_cases (m : PhraseMatcher) {i : Nat} {c : Char} (h : m.phrase[i]? = some c) :
    (i + 1 < m.phrase.length ∧ m.advance i = (false, { m with progress := i + 1 })) ∨
    (i + 1 = m.phrase.length ∧ m.advance i = (true, m.reset)) := by
  obtain ⟨inside, _⟩ := List.getElem?_eq_some_iff.1 h
  by_cases more : i + 1 < m.phrase.length
  · exact .inl ⟨more, by rw [advance, if_pos more]⟩
  · exact .inr ⟨by omega, by rw [advance, if_neg more]⟩

theorem type_cases (m : PhraseMatcher) (c : Char) :
    (∃ i, (i = m.progress ∨ i = 0) ∧ m.phrase[i]? = some c ∧ m.type c = m.advance i) ∨
    m.type c = (false, m.reset) := by
  by_cases next : m.phrase[m.progress]? = some c
  · exact .inl ⟨m.progress, .inl rfl, next, by rw [type, if_pos next]⟩
  by_cases first : m.phrase[0]? = some c
  · exact .inl ⟨0, .inr rfl, first, by rw [type, if_neg next, if_pos first]⟩
  · exact .inr (by rw [type, if_neg next, if_neg first])

end PhraseMatcher

/-- Whether a key press types a character for the phrase: speed chords do not. -/
def KeyEvent.types (steps : UInt8) (e : KeyEvent) : Bool :=
  e.isChar && (KeyTracker.speedStep? steps e).isNone

def JustTyped (steps : UInt8) (es : List KeyEvent) (text : List Char) : Prop :=
  ∃ recent, recent <:+ es ∧ (∀ e ∈ recent, e.types steps = true) ∧ recent.map (·.c) = text

theorem JustTyped.nil (steps : UInt8) (es : List KeyEvent) : JustTyped steps es [] :=
  ⟨[], List.nil_suffix, by simp, rfl⟩

theorem JustTyped.concat {steps : UInt8} {es : List KeyEvent} {text : List Char} {e : KeyEvent}
    (h : JustTyped steps es text) (typed : e.types steps = true) :
    JustTyped steps (es ++ [e]) (text ++ [e.c]) := by
  obtain ⟨recent, ⟨before, rfl⟩, all, rfl⟩ := h
  refine ⟨recent ++ [e], ⟨before, by simp⟩, ?_, by simp⟩
  intro a ha
  rcases List.mem_append.1 ha with ha | ha
  · exact all a ha
  · rwa [List.mem_singleton.1 ha]

theorem JustTyped.extend {steps : UInt8} {es : List KeyEvent} {phrase : List Char} {e : KeyEvent}
    {k i : Nat} (h : JustTyped steps es (phrase.take k)) (origin : i = k ∨ i = 0)
    (typed : e.types steps = true) (found : phrase[i]? = some e.c) :
    JustTyped steps (es ++ [e]) (phrase.take (i + 1)) := by
  have before : JustTyped steps es (phrase.take i) := by
    rcases origin with rfl | rfl
    · exact h
    · exact .nil _ _
  rw [List.take_add_one, found]
  exact before.concat typed

namespace KeyTracker

def matched (t : KeyTracker) (n : Nat) : KeyTracker :=
  { t with matcher := { t.matcher with progress := n } }

theorem specialAction_cases {e : KeyEvent} {a : CheatAction} (h : specialAction e = some a) :
    (∃ players, a = .destroyBuildings players) ∨ a = .destroyAiBuildings ∨ a = .advanceReveal ∨
      a = .toggleAllVisible ∨ a = .toggleTakeover := by
  unfold specialAction at h
  split at h
  · split at h
    · split at h
      · exact .inl ⟨_, (Option.some.inj h).symm⟩
      · split at h
        · exact .inr (.inl (Option.some.inj h).symm)
        · cases h
    · cases h
  · split at h
    · split at h
      · exact .inr (.inr (.inl (Option.some.inj h).symm))
      · exact .inr (.inr (.inr (.inl (Option.some.inj h).symm)))
    · exact .inr (.inr (.inr (.inr (Option.some.inj h).symm)))
    · cases h

theorem specialAction_ne_toggle (e : KeyEvent) : specialAction e ≠ some .toggleCheatMode := by
  intro h
  rcases specialAction_cases h with ⟨_, h⟩ | h | h | h | h <;> cases h

theorem track_of_types {t : KeyTracker} {e : KeyEvent} (typed : e.types t.speedSteps = true) :
    t.track e = (if (t.matcher.type e.c).1 then some .toggleCheatMode else none,
      { t with matcher := (t.matcher.type e.c).2 }) := by
  simp only [KeyEvent.types, Bool.and_eq_true, Option.isNone_iff_eq_none] at typed
  simp only [track, typed.1, typed.2, if_true]

theorem track_of_not_types {t : KeyTracker} {e : KeyEvent}
    (other : ¬ e.types t.speedSteps = true) :
    (t.track e).1 ≠ some .toggleCheatMode ∧ (t.track e).2 = t.matched 0 := by
  by_cases char : e.isChar = true
  · cases speed : speedStep? t.speedSteps e with
    | some step =>
      simp only [track, char, speed, if_true]
      exact ⟨by simp, rfl⟩
    | none => exact absurd (by simp [KeyEvent.types, char, speed]) other
  · rw [track, if_neg char]
    exact ⟨specialAction_ne_toggle e, rfl⟩

theorem track_cases (t : KeyTracker) (e : KeyEvent) :
    (∃ i, (i = t.progress ∨ i = 0) ∧ e.types t.speedSteps = true ∧
      t.matcher.phrase[i]? = some e.c ∧ i + 1 < t.matcher.phrase.length ∧
      t.track e = (none, t.matched (i + 1))) ∨
    (∃ i, (i = t.progress ∨ i = 0) ∧ e.types t.speedSteps = true ∧
      t.matcher.phrase[i]? = some e.c ∧ i + 1 = t.matcher.phrase.length ∧
      t.track e = (some .toggleCheatMode, t.matched 0)) ∨
    ((t.track e).1 ≠ some .toggleCheatMode ∧ (t.track e).2 = t.matched 0) := by
  by_cases typed : e.types t.speedSteps = true
  · have eq := track_of_types typed
    rcases t.matcher.type_cases e.c with ⟨i, origin, found, type⟩ | type
    · rcases t.matcher.advance_cases found with ⟨more, advance⟩ | ⟨last, advance⟩
      · exact .inl ⟨i, origin, typed, found, more, by rw [eq, type, advance]; rfl⟩
      · exact .inr (.inl ⟨i, origin, typed, found, last, by rw [eq, type, advance]; rfl⟩)
    · exact .inr (.inr (by rw [eq, type]; exact ⟨by simp, rfl⟩))
  · exact .inr (.inr (track_of_not_types typed))

theorem track_matched (t : KeyTracker) (e : KeyEvent) :
    ∃ n, (t.track e).2 = t.matched n := by
  rcases t.track_cases e with ⟨i, _, _, _, _, eq⟩ | ⟨_, _, _, _, _, eq⟩ | ⟨_, eq⟩
  · exact ⟨i + 1, by rw [eq]⟩
  · exact ⟨0, by rw [eq]⟩
  · exact ⟨0, eq⟩

theorem trackAll_append (t : KeyTracker) (first second : List KeyEvent) :
    t.trackAll (first ++ second) =
      ((t.trackAll first).1 ++ ((t.trackAll first).2.trackAll second).1,
        ((t.trackAll first).2.trackAll second).2) := by
  induction first generalizing t with
  | nil => rfl
  | cons e es ih => simp only [List.cons_append, trackAll, ih]

theorem trackAll_matched (t : KeyTracker) (es : List KeyEvent) :
    ∃ n, (t.trackAll es).2 = t.matched n := by
  induction es generalizing t with
  | nil => exact ⟨t.progress, rfl⟩
  | cons e es ih =>
    obtain ⟨n, step⟩ := t.track_matched e
    obtain ⟨k, rest⟩ := ih (t.track e).2
    exact ⟨k, by rw [trackAll, rest, step]; rfl⟩

theorem trackAll_length (t : KeyTracker) (es : List KeyEvent) :
    (t.trackAll es).1.length = es.length := by
  induction es generalizing t with
  | nil => rfl
  | cons e es ih => simp [trackAll, ih]

def Completes (t : KeyTracker) (es : List KeyEvent) (n : Nat) : Prop :=
  (t.trackAll es).1[n]? = some (some .toggleCheatMode)

theorem Completes.lt {t : KeyTracker} {es : List KeyEvent} {n : Nat} (h : t.Completes es n) :
    n < es.length := by
  rw [← t.trackAll_length es]
  exact (List.getElem?_eq_some_iff.1 h).1

theorem completes_concat {t : KeyTracker} {es : List KeyEvent} {e : KeyEvent} {n : Nat} :
    t.Completes (es ++ [e]) n ↔
      t.Completes es n ∨
        n = es.length ∧ ((t.trackAll es).2.track e).1 = some .toggleCheatMode := by
  have length := t.trackAll_length es
  unfold Completes
  rw [trackAll_append]
  simp only [trackAll]
  rcases Nat.lt_trichotomy n es.length with before | here | beyond
  · rw [List.getElem?_append_left (by omega)]
    simp [Nat.ne_of_lt before]
  · subst here
    rw [List.getElem?_append_right (by omega), length]
    simp [length]
  · rw [List.getElem?_eq_none (by simp; omega), List.getElem?_eq_none (by omega)]
    simp
    omega

/-- What the key presses so far tell of a tracker that began with nothing matched. -/
structure Follows (t : KeyTracker) (es : List KeyEvent) : Prop where
  bounded : (t.trackAll es).2.progress = 0 ∨
    (t.trackAll es).2.progress < t.matcher.phrase.length
  typed : JustTyped t.speedSteps es (t.matcher.phrase.take (t.trackAll es).2.progress)
  fresh : ∀ n, t.Completes es n → n + 1 + (t.trackAll es).2.progress ≤ es.length
  completed : ∀ n, t.Completes es n →
    t.matcher.phrase ≠ [] ∧ JustTyped t.speedSteps (es.take (n + 1)) t.matcher.phrase ∧
    ∀ m < n, t.Completes es m → m + t.matcher.phrase.length ≤ n

theorem follows_nil {t : KeyTracker} (begun : t.progress = 0) : t.Follows [] where
  bounded := .inl begun
  typed := by
    rw [trackAll, begun]
    exact .nil _ _
  fresh n h := absurd h.lt (Nat.not_lt_zero n)
  completed n h := absurd h.lt (Nat.not_lt_zero n)

theorem Follows.concat_quiet {t : KeyTracker} {es : List KeyEvent} {e : KeyEvent} {k : Nat}
    (h : t.Follows es) (quiet : ((t.trackAll es).2.track e).1 ≠ some .toggleCheatMode)
    (after : ((t.trackAll es).2.track e).2.progress = k)
    (step : k ≤ (t.trackAll es).2.progress + 1)
    (bounded : k = 0 ∨ k < t.matcher.phrase.length)
    (typed : JustTyped t.speedSteps (es ++ [e]) (t.matcher.phrase.take k)) :
    t.Follows (es ++ [e]) := by
  have progress : (t.trackAll (es ++ [e])).2.progress = k := by
    rw [trackAll_append]
    exact after
  have old (n : Nat) (done : t.Completes (es ++ [e]) n) : t.Completes es n :=
    (completes_concat.1 done).resolve_right fun last => quiet last.2
  refine ⟨by rwa [progress], by rwa [progress], fun n done => ?_, fun n done => ?_⟩
  · have := h.fresh n (old n done)
    rw [progress, List.length_append, List.length_singleton]
    omega
  · obtain ⟨nonempty, spelled, apart⟩ := h.completed n (old n done)
    have inside := (old n done).lt
    refine ⟨nonempty, ?_, fun m before done' => apart m before (old m done')⟩
    rwa [List.take_append_of_le_length (by omega)]

theorem Follows.concat_complete {t : KeyTracker} {es : List KeyEvent} {e : KeyEvent}
    (h : t.Follows es)
    (done : (t.trackAll es).2.track e = (some .toggleCheatMode, (t.trackAll es).2.matched 0))
    (step : t.matcher.phrase.length ≤ (t.trackAll es).2.progress + 1)
    (nonempty : t.matcher.phrase ≠ [])
    (typed : JustTyped t.speedSteps (es ++ [e]) t.matcher.phrase) : t.Follows (es ++ [e]) := by
  have progress : (t.trackAll (es ++ [e])).2.progress = 0 := by
    rw [trackAll_append]
    simp only [trackAll, done]
    rfl
  have old (n : Nat) (before : n < es.length) (done : t.Completes (es ++ [e]) n) :
      t.Completes es n :=
    (completes_concat.1 done).resolve_right (by omega)
  refine ⟨.inl progress, by rw [progress]; exact .nil _ _, fun n done => ?_, fun n done => ?_⟩
  · have := done.lt
    rw [progress]
    omega
  · rcases completes_concat.1 done with earlier | ⟨rfl, _⟩
    · obtain ⟨nonempty, spelled, apart⟩ := h.completed n earlier
      have inside := earlier.lt
      refine ⟨nonempty, ?_, fun m before done => apart m before (old m (by omega) done)⟩
      rwa [List.take_append_of_le_length (by omega)]
    · refine ⟨nonempty, ?_, fun m before done => ?_⟩
      · rwa [List.take_of_length_le (by simp)]
      · have := h.fresh m (old m before done)
        omega

theorem Follows.concat {t : KeyTracker} {es : List KeyEvent} (h : t.Follows es) (e : KeyEvent) :
    t.Follows (es ++ [e]) := by
  obtain ⟨k, state⟩ := t.trackAll_matched es
  have progress : (t.trackAll es).2.progress = k := by rw [state]; rfl
  have typed := h.typed
  rw [progress] at typed
  rcases (t.trackAll es).2.track_cases e with ⟨i, origin, types, found, more, eq⟩ |
    ⟨i, origin, types, found, last, eq⟩ | ⟨quiet, after⟩
  · rw [progress] at origin
    rw [state] at types found more
    refine h.concat_quiet (by simp [eq]) (by rw [eq]; rfl) ?_ (.inr more)
      (typed.extend origin types found)
    omega
  · rw [progress] at origin
    rw [state] at types found last
    change i + 1 = t.matcher.phrase.length at last
    have spelled := typed.extend origin types found
    rw [last, List.take_length] at spelled
    exact h.concat_complete eq (by omega) (List.ne_nil_of_length_pos (by omega)) spelled
  · exact h.concat_quiet quiet (by rw [after]; rfl) (Nat.zero_le _) (.inl rfl) (.nil _ _)

theorem follows {t : KeyTracker} (begun : t.progress = 0) (es : List KeyEvent) : t.Follows es := by
  induction es using List.reverseRecOn with
  | nil => exact follows_nil begun
  | append_singleton es e ih => exact ih.concat e

/-- After any key presses the progress stays within the phrase and counts the last characters that
were typed; each completion is spelled by the presses that end with it, apart from those of every
completion before. -/
theorem trackAll_spelled (c : TrackerConfig) (es : List KeyEvent) :
    let t := ofConfig c
    let phrase := c.phrase.toList
    let progress := (t.trackAll es).2.progress
    (phrase = [] → progress = 0) ∧ (phrase ≠ [] → progress < phrase.length) ∧
    JustTyped c.speedSteps es (phrase.take progress) ∧
    ∀ n, t.Completes es n →
      1 ≤ phrase.length ∧ JustTyped c.speedSteps (es.take (n + 1)) phrase ∧
      ∀ m < n, t.Completes es m → m + phrase.length ≤ n := by
  have h : (ofConfig c).Follows es := follows rfl es
  refine ⟨fun empty => ?_, fun nonempty => ?_, h.typed, fun n done => ?_⟩
  · rcases h.bounded with start | inside
    · exact start
    · have none : (ofConfig c).matcher.phrase = [] := empty
      rw [none] at inside
      exact absurd inside (Nat.not_lt_zero _)
  · rcases h.bounded with start | inside
    · rw [start]
      exact List.length_pos_iff.2 nonempty
    · exact inside
  · obtain ⟨nonempty, spelled, apart⟩ := h.completed n done
    exact ⟨List.length_pos_iff.2 nonempty, spelled, apart⟩

example : (ofConfig .standard).Completes ("wwwinter".toList.map .typed) 7 := by
  unfold Completes
  decide

end KeyTracker

end CheatCodes
