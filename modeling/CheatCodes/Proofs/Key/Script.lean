import CheatCodes.Key.Script
import CheatCodes.Proofs.Key.Chord
/-!
Key scripts word by word. Texts that are joined by blanks read as the events of the one and then
of the other, and of several bad words the first is reported. A word is bad only if it opens a
bracket that it does not close or holds no chord between the two; so every key press that its text
tells all of can be written as a word, the brackets and the plus sign included, but no blank.
-/
namespace CheatCodes.Script
open Text (Blanks words joined isBlank)

/-! One word. -/

theorem readWord_plain {word : List Char} (plain : word.head? ≠ some '<') :
    readWord word = .ok (word.map .typed) := by
  unfold readWord
  split
  · exact absurd rfl plain
  · rfl

theorem readWord_unclosed {rest : List Char} (unclosed : ∀ chord, rest ≠ chord ++ ['>']) :
    readWord ('<' :: rest) = .error (.unterminated ('<' :: rest)) := by
  refine if_neg fun closed => ?_
  obtain ⟨chord, ends⟩ := List.getLast?_eq_some_iff.1 closed
  exact unclosed chord ends

theorem readWord_bracketed (chord : List Char) :
    readWord ('<' :: (chord ++ ['>'])) = (Chord.read chord).map ([·]) := by
  rw [readWord, if_pos (by simp), List.dropLast_concat]

inductive Faulty : List Char → KeyError → Prop
  /-- The bracket that it opens is not closed by its last character. -/
  | unclosed {rest : List Char} (h : ∀ chord, rest ≠ chord ++ ['>']) :
    Faulty ('<' :: rest) (.unterminated ('<' :: rest))
  | badChord {chord : List Char} {e : KeyError} (h : Chord.read chord = .error e) :
    Faulty ('<' :: (chord ++ ['>'])) e

theorem word_cases (word : List Char) :
    word.head? ≠ some '<' ∨
      (∃ rest, word = '<' :: rest ∧ ∀ chord, rest ≠ chord ++ ['>']) ∨
      ∃ chord, word = '<' :: (chord ++ ['>']) := by
  by_cases opened : word.head? = some '<'
  · obtain ⟨rest, rfl⟩ := List.head?_eq_some_iff.1 opened
    by_cases closed : ∃ chord, rest = chord ++ ['>']
    · obtain ⟨chord, rfl⟩ := closed
      exact .inr (.inr ⟨chord, rfl⟩)
    · exact .inr (.inl ⟨rest, rfl, not_exists.1 closed⟩)
  · exact .inl opened

theorem readWord_eq_error_iff {word : List Char} {e : KeyError} :
    readWord word = .error e ↔ Faulty word e := by
  constructor
  · intro failed
    obtain plain | ⟨rest, rfl, unclosed⟩ | ⟨chord, rfl⟩ := word_cases word
    · rw [readWord_plain plain] at failed
      cases failed
    · rw [readWord_unclosed unclosed] at failed
      cases failed
      exact .unclosed unclosed
    · rw [readWord_bracketed] at failed
      cases found : Chord.read chord with
      | error e' =>
        rw [found] at failed
        cases failed
        exact .badChord found
      | ok event =>
        rw [found] at failed
        cases failed
  · intro faulty
    cases faulty with
    | unclosed h => exact readWord_unclosed h
    | badChord h =>
      rw [readWord_bracketed, h]
      rfl

/-! Words in a row. -/

theorem readWords_append (first second : List (List Char)) :
    readWords (first ++ second) = do
      let events ← readWords first
      return events ++ (← readWords second) := by
  induction first with
  | nil =>
    rw [List.nil_append, readWords]
    cases readWords second <;> rfl
  | cons word first ih =>
    rw [List.cons_append, readWords, readWords, ih]
    cases readWord word with
    | error e => rfl
    | ok here =>
      cases readWords first with
      | error e => rfl
      | ok events =>
        cases readWords second with
        | error e => rfl
        | ok more => exact congrArg Except.ok (List.append_assoc here events more).symm

theorem readWords_cons {word : List Char} {words : List (List Char)} {events : List KeyEvent}
    (h : readWords (word :: words) = .ok events) :
    ∃ first rest, readWord word = .ok first ∧ readWords words = .ok rest ∧
      events = first ++ rest := by
  rw [readWords] at h
  cases one : readWord word with
  | error e => rw [one] at h; cases h
  | ok first =>
    cases more : readWords words with
    | error e => rw [one, more] at h; cases h
    | ok rest =>
      rw [one, more] at h
      exact ⟨first, rest, rfl, rfl, (Except.ok.inj h).symm⟩

def FirstFault (words : List (List Char)) (e : KeyError) : Prop :=
  ∃ before word after, words = before ++ word :: after ∧
    (∀ other ∈ before, ∀ e', ¬ Faulty other e') ∧ Faulty word e

theorem firstFault_cons {word : List Char} {words : List (List Char)} {e : KeyError} :
    FirstFault (word :: words) e ↔
      Faulty word e ∨ (∀ e', ¬ Faulty word e') ∧ FirstFault words e := by
  constructor
  · rintro ⟨before, bad, after, split, good, faulty⟩
    cases before with
    | nil =>
      obtain ⟨rfl, rfl⟩ := List.cons.inj split
      exact .inl faulty
    | cons other before =>
      obtain ⟨rfl, rfl⟩ := List.cons.inj split
      exact .inr ⟨good word List.mem_cons_self, before, bad, after, rfl,
        fun w listed => good w (List.mem_cons_of_mem word listed), faulty⟩
  · rintro (faulty | ⟨fine, before, bad, after, rfl, good, faulty⟩)
    · exact ⟨[], word, words, rfl, by simp, faulty⟩
    · refine ⟨word :: before, bad, after, rfl, ?_, faulty⟩
      intro other listed
      rcases List.mem_cons.1 listed with rfl | earlier
      · exact fine
      · exact good other earlier

theorem readWords_eq_error_iff {words : List (List Char)} {e : KeyError} :
    readWords words = .error e ↔ FirstFault words e := by
  induction words with
  | nil => exact iff_of_false (by simp [readWords]) (by simp [FirstFault])
  | cons word words ih =>
    rw [firstFault_cons, ← ih, readWords]
    simp only [← readWord_eq_error_iff]
    cases readWord word with
    | error e' => simp [bind, Except.bind]
    | ok here => cases readWords words <;> simp [bind, Except.bind, pure, Except.pure]

theorem firstFault_of_faulty {words : List (List Char)} {word : List Char} {e : KeyError}
    (listed : word ∈ words) (faulty : Faulty word e) : ∃ e', FirstFault words e' := by
  induction words with
  | nil => cases listed
  | cons first words ih =>
    by_cases bad : ∃ e', Faulty first e'
    · obtain ⟨e', here⟩ := bad
      exact ⟨e', firstFault_cons.2 (.inl here)⟩
    · have fine : ∀ e', ¬ Faulty first e' := not_exists.1 bad
      rcases List.mem_cons.1 listed with rfl | later
      · exact absurd faulty (fine e)
      · obtain ⟨e', next⟩ := ih later
        exact ⟨e', firstFault_cons.2 (.inr ⟨fine, next⟩)⟩

theorem readWords_plain {words : List (List Char)}
    (plain : ∀ word ∈ words, word.head? ≠ some '<') :
    readWords words = .ok (words.flatten.map .typed) := by
  induction words with
  | nil => rfl
  | cons word words ih =>
    rw [readWords, readWord_plain (plain word List.mem_cons_self),
      ih fun other listed => plain other (List.mem_cons_of_mem word listed), List.flatten_cons,
      List.map_append]
    rfl

/-! Whole scripts. -/

theorem read_append_blanks (first second : List Char) (gap : Blanks) :
    read (first ++ gap.chars ++ second) = do
      let events ← read first
      return events ++ (← read second) := by
  rw [read, Text.words_append_blanks, readWords_append, read, read]

/-- Scripts are read word by word. What blanks join is read in turn, and blanks at the ends do not
matter. A script fails exactly if one of its words is bad, as the first of those; one whose words
open no bracket types what it holds but the blanks. -/
theorem read_wordwise :
    (∀ (first second : List Char) (gap : Blanks),
      read (first ++ gap.chars ++ second) =
        match read first, read second with
        | .error e, _ => .error e
        | .ok _, .error e => .error e
        | .ok events, .ok more => .ok (events ++ more)) ∧
    (∀ (script : List Char) (gap : Blanks),
      read (gap.chars ++ script) = read script ∧ read (script ++ gap.chars) = read script) ∧
    (∀ script, (∃ e, read script = .error e) ↔ ∃ word ∈ words script, ∃ e, Faulty word e) ∧
    (∀ script e, read script = .error e ↔ FirstFault (words script) e) ∧
    ∀ script, (∀ word ∈ words script, word.head? ≠ some '<') →
      read script = .ok ((script.filter fun c => !isBlank c).map .typed) := by
  refine ⟨fun first second gap => ?_, fun script gap => ⟨?_, ?_⟩, fun script => ⟨?_, ?_⟩,
    fun script e => readWords_eq_error_iff, fun script plain => ?_⟩
  · rw [read_append_blanks]
    cases read first <;> cases read second <;> rfl
  · rw [read, Text.words_blank_append gap.blank, read]
  · have nothing : Text.words [] = [] := rfl
    have ended := Text.words_append_blanks script [] gap
    rw [List.append_nil, nothing, List.append_nil] at ended
    rw [read, ended, read]
  · rintro ⟨e, failed⟩
    obtain ⟨before, word, after, cut, _, faulty⟩ := readWords_eq_error_iff.1 failed
    exact ⟨word, by simp [cut], e, faulty⟩
  · rintro ⟨word, listed, e, faulty⟩
    obtain ⟨e', first⟩ := firstFault_of_faulty listed faulty
    exact ⟨e', readWords_eq_error_iff.2 first⟩
  · rw [read, readWords_plain plain, Text.flatten_words]

theorem read_wordwise_inside :
    (∀ word ∈ words "a<b>\u3000>".toList, word.head? ≠ some '<') ∧
      read "a<b>\u3000>".toList = .ok ("a<b>>".toList.map .typed) := by
  have plain : ∀ word ∈ words "a<b>\u3000>".toList, word.head? ≠ some '<' := by decide
  exact ⟨plain, read_wordwise.2.2.2.2 _ plain⟩

/-! Key presses written as words. -/

theorem readWord_word {e : KeyEvent} (legible : e.Legible) : readWord (word e) = .ok [e] := by
  rw [word, readWord_bracketed, Chord.read_text legible]
  rfl

theorem readWords_words {es : List KeyEvent} (legible : ∀ e ∈ es, e.Legible) :
    readWords (es.map word) = .ok es := by
  induction es with
  | nil => rfl
  | cons e es ih =>
    rw [List.map_cons, readWords, readWord_word (legible e List.mem_cons_self),
      ih fun other listed => legible other (List.mem_cons_of_mem e listed)]
    rfl

theorem dark_word {e : KeyEvent} (dark : isBlank e.c = false) :
    ∀ c ∈ word e, isBlank c = false := by
  have label (m : Modifier) : m.label.all (!isBlank ·) = true := by cases m <;> rfl
  have name (k : KeyKind) : (Named.name k).toList.all (!isBlank ·) = true := by cases k <;> rfl
  have key : ∀ c ∈ e.keyText, isBlank c = false := by
    unfold KeyEvent.keyText
    split
    · simpa using dark
    · simpa using name e.kind
  intro c member
  have inside : c = '<' ∨ c ∈ e.text ∨ c = '>' := by simpa [word] using member
  rcases inside with rfl | told | rfl
  · rfl
  · rw [Chord.text_eq_written, Chord.written] at told
    rcases List.mem_append.1 told with held | last
    · obtain ⟨part, listed, here⟩ := List.mem_flatMap.1 held
      obtain ⟨m, _, rfl⟩ := List.mem_map.1 listed
      rcases List.mem_append.1 here with labelled | plus
      · simpa using List.all_eq_true.1 (label m) c labelled
      · rw [List.mem_singleton.1 plus]
        rfl
    · exact key c last
  · rfl

/-- Key presses that their texts tell all of read back from their words, whatever blanks stand
between those, unless one types a blank itself. -/
theorem read_joined {es : List KeyEvent} (legible : ∀ e ∈ es, e.Legible)
    (dark : ∀ e ∈ es, isBlank e.c = false) (gaps : Nat → Blanks) :
    read (joined gaps (es.map word)) = .ok es := by
  have found : words (joined gaps (es.map word)) = es.map word := by
    refine Text.words_joined ?_ ?_ gaps
    · intro w listed
      obtain ⟨e, _, rfl⟩ := List.mem_map.1 listed
      exact List.cons_ne_nil _ _
    · intro w listed
      obtain ⟨e, pressed, rfl⟩ := List.mem_map.1 listed
      exact dark_word (dark e pressed)
  rw [read, found, readWords_words legible]

theorem read_joined_brackets :
    ∃ es : List KeyEvent, ∃ gaps : Nat → Blanks, (∀ e ∈ es, e.Legible) ∧
      (∀ e ∈ es, isBlank e.c = false) ∧
      joined gaps (es.map word) = "<<> <Ctrl++> \u3000<>> \u3000\u3000<Shift+F10>".toList ∧
      read (joined gaps (es.map word)) = .ok es := by
  let es : List KeyEvent :=
    [.typed '<', ⟨.char, '+', true, false, false⟩, .typed '>', ⟨.f10, '\x00', false, true, false⟩]
  let gaps (n : Nat) : Blanks :=
    ⟨' ' :: List.replicate n '\u3000', List.cons_ne_nil _ _, by
      intro c member
      rcases List.mem_cons.1 member with rfl | wide
      · rfl
      · rw [List.eq_of_mem_replicate wide]
        rfl⟩
  have legible : ∀ e ∈ es, e.Legible := by decide
  have dark : ∀ e ∈ es, isBlank e.c = false := by decide
  exact ⟨es, gaps, legible, dark, by decide, read_joined legible dark gaps⟩

end CheatCodes.Script
