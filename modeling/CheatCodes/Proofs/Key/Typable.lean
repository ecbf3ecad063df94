import CheatCodes.Proofs.Key.Script
import CheatCodes.Proofs.Phrase.Overlap
/-!
What key scripts can type. Every character can be pressed as a chord of its own, the angle brackets
and the plus sign included, except blanks: they part the words of a script and so stand in no
chord. The phrases that a script can complete are therefore those without blanks.
-/
namespace CheatCodes

namespace Script

theorem dark_of_readWord {word : List Char} {events : List KeyEvent}
    (dark : ∀ c ∈ word, Text.isBlank c = false) (h : readWord word = .ok events) :
    ∀ e ∈ events, Text.isBlank e.c = false := by
  intro e member
  obtain plain | ⟨rest, rfl, unclosed⟩ | ⟨chord, rfl⟩ := word_cases word
  · rw [readWord_plain plain] at h
    rw [← Except.ok.inj h] at member
    obtain ⟨c, inside, rfl⟩ := List.mem_map.1 member
    exact dark c inside
  · rw [readWord_unclosed unclosed] at h
    cases h
  · rw [readWord_bracketed] at h
    cases found : Chord.read chord with
    | error error => rw [found] at h; cases h
    | ok pressed =>
      rw [found] at h
      rw [← Except.ok.inj h] at member
      rw [List.mem_singleton.1 member]
      rcases Chord.c_of_read found with inside | plus | none
      · exact dark _ (List.mem_cons_of_mem _ (List.mem_append_left _ inside))
      · rw [plus]
        rfl
      · rw [none]
        rfl

theorem dark_of_readWords {words : List (List Char)} {events : List KeyEvent}
    (dark : ∀ word ∈ words, ∀ c ∈ word, Text.isBlank c = false)
    (h : readWords words = .ok events) : ∀ e ∈ events, Text.isBlank e.c = false := by
  induction words generalizing events with
  | nil =>
    intro e member
    rw [← Except.ok.inj h] at member
    cases member
  | cons word words ih =>
    obtain ⟨first, rest, one, more, rfl⟩ := readWords_cons h
    intro e member
    rcases List.mem_append.1 member with here | later
    · exact dark_of_readWord (dark word List.mem_cons_self) one e here
    · exact ih (fun w listed => dark w (List.mem_cons_of_mem word listed)) more e later

theorem dark_of_read {script : List Char} {events : List KeyEvent}
    (h : read script = .ok events) : ∀ e ∈ events, Text.isBlank e.c = false :=
  dark_of_readWords (fun _ listed => Text.dark_of_mem_words listed) h

def typing (text : List Char) : List Char :=
  text.flatMap fun c => word (.typed c) ++ [' ']

theorem words_typing {text : List Char} (dark : ∀ c ∈ text, Text.isBlank c = false) :
    Text.words (typing text) = (text.map .typed).map word := by
  induction text with
  | nil => rfl
  | cons c cs ih =>
    have one : Text.words (word (.typed c)) = [word (.typed c)] :=
      Text.words_of_dark (List.cons_ne_nil _ _) (dark_word (dark c List.mem_cons_self))
    have next : typing (c :: cs) = word (.typed c) ++ ' ' :: typing cs := by simp [typing]
    rw [next, Text.words_append_blank rfl, one, ih fun d member =>
      dark d (List.mem_cons_of_mem c member)]
    rfl

theorem read_typing {text : List Char} (dark : ∀ c ∈ text, Text.isBlank c = false) :
    read (typing text) = .ok (text.map .typed) := by
  have legible : ∀ e ∈ text.map .typed, KeyEvent.Legible e := by
    intro e member
    obtain ⟨c, _, rfl⟩ := List.mem_map.1 member
    exact KeyEvent.legible_typed c
  rw [read, words_typing dark, readWords_words legible]

end Script

namespace KeyTracker

theorem toggles_typed {config : TrackerConfig} (nonempty : config.phrase.toList ≠ []) :
    some .toggleCheatMode ∈
      ((ofConfig config).trackAll (config.phrase.toList.map .typed)).1 := by
  rw [mem_trackAll_typed]
  exact PhraseMatcher.completes_rest (List.length_pos_iff.2 nonempty)

theorem pressed_of_toggles {config : TrackerConfig} {events : List KeyEvent}
    (h : some .toggleCheatMode ∈ ((ofConfig config).trackAll events).1) :
    config.phrase.toList ≠ [] ∧ ∀ c ∈ config.phrase.toList, ∃ e ∈ events, e.c = c := by
  obtain ⟨n, done⟩ := List.mem_iff_getElem?.1 h
  obtain ⟨nonempty, ⟨recent, ending, _, spelled⟩, _⟩ :=
    (follows (t := ofConfig config) rfl events).completed n done
  refine ⟨nonempty, fun c member => ?_⟩
  have typed : c ∈ recent.map (·.c) := by
    rw [spelled]
    exact member
  obtain ⟨e, pressed, same⟩ := List.mem_map.1 typed
  exact ⟨e, List.mem_of_mem_take (ending.subset pressed), same⟩

/-- Some script completes a phrase exactly if there is one and no blank is in it. -/
theorem typable_iff (config : TrackerConfig) :
    (∃ script events, Script.read script = .ok events ∧
      some .toggleCheatMode ∈ ((ofConfig config).trackAll events).1) ↔
    config.phrase.toList ≠ [] ∧ ∀ c ∈ config.phrase.toList, Text.isBlank c = false := by
  constructor
  · rintro ⟨script, events, read, done⟩
    obtain ⟨nonempty, pressed⟩ := pressed_of_toggles done
    refine ⟨nonempty, fun c member => ?_⟩
    obtain ⟨e, listed, rfl⟩ := pressed c member
    exact Script.dark_of_read read e listed
  · rintro ⟨nonempty, dark⟩
    exact ⟨_, _, Script.read_typing dark, toggles_typed nonempty⟩

example : Script.read (Script.typing "<+>".toList) = .ok ("<+>".toList.map .typed) := by
  decide

end KeyTracker

end CheatCodes
