import CheatCodes.Key.Chord
import CheatCodes.Proofs.Text.Words
/-!
Chords and the texts of key presses. Names joined by plus signs are found again as the parts of a
chord, also when the last one is the plus key. So the text of a key press reads back as that key
press, unless its kind has no name or the text leaves a character out; and no chord reads as a key
press of that sort.
-/
namespace CheatCodes

def KeyKind.hasName : KeyKind → Bool
  | .invalid | .special | .char => false
  | _ => true

theorem KeyKind.hasName_of_ofText? {text : List Char} {k : KeyKind} (h : ofText? text = some k) :
    k.hasName = true := by
  have functions : ∀ k ∈ functionKeys, k.hasName = true := by decide
  have numbered {digits : List Char} (found : ofNumber? digits = some k) : k.hasName = true := by
    unfold ofNumber? at found
    split at found
    · exact functions k (List.mem_of_getElem? found)
    · cases found
  unfold ofText? ofLower? at h
  split at h
  -- The last alternative is the letter with a number, all others are names as they stand.
  case h_18 =>
    split at h
    · exact numbered h
    · cases h
  all_goals
    rw [← Option.some.inj h]
    rfl

theorem KeyKind.read_eq_ok {text : List Char} {k : KeyKind} :
    read text = .ok k ↔ ofText? text = some k := by
  unfold read
  cases ofText? text with
  | none => simp
  | some found => simp

theorem KeyKind.read_eq_error {text : List Char} {e : KeyError} :
    read text = .error e ↔ e = .unknownKey text ∧ ∀ k, read text ≠ .ok k := by
  unfold read
  cases ofText? text with
  | none => simp [eq_comm]
  | some found => simp

namespace KeyEvent

/-- The text of the key press tells all of it: the kind has a name or is typed as the character
itself, and only a typed key has a character. -/
def Legible (e : KeyEvent) : Prop :=
  e.kind ≠ .invalid ∧ e.kind ≠ .special ∧ (e.kind = .char ∨ e.c = '\x00')

instance (e : KeyEvent) : Decidable e.Legible :=
  inferInstanceAs (Decidable (_ ∧ _))

theorem legible_typed (c : Char) : (typed c).Legible :=
  ⟨by simp [typed], by simp [typed], .inl rfl⟩

theorem legible_pressed {k : KeyKind} (h : k.hasName = true) : (pressed k).Legible := by
  refine ⟨?_, ?_, .inr rfl⟩
  · rintro rfl
    cases h
  · rintro rfl
    cases h

/-- The modifiers of a key press, in the order in which its text names them. -/
def held (e : KeyEvent) : List Modifier :=
  (if e.ctrl then [.ctrl] else []) ++ (if e.shift then [.shift] else []) ++
    (if e.alt then [.alt] else [])

def bare (e : KeyEvent) : KeyEvent :=
  ⟨e.kind, e.c, false, false, false⟩

theorem foldl_hold_bare (e : KeyEvent) : e.held.foldl Modifier.hold e.bare = e := by
  obtain ⟨kind, c, ctrl, shift, alt⟩ := e
  cases ctrl <;> cases shift <;> cases alt <;> rfl

end KeyEvent

namespace Modifier

def label : Modifier → List Char
  | .ctrl => "Ctrl".toList
  | .shift => "Shift".toList
  | .alt => "Alt".toList

@[simp] theorem ofText?_label (m : Modifier) : ofText? m.label = some m := by
  cases m <;> rfl

theorem label_whole (m : Modifier) : ∀ c ∈ m.label, (c == '+') = false := by
  have free : m.label.all (· != '+') = true := by cases m <;> rfl
  simpa using free

end Modifier

namespace Chord

def written (names : List (List Char)) (key : List Char) : List Char :=
  names.flatMap (· ++ ['+']) ++ key

theorem written_cons (name : List Char) (names : List (List Char)) (key : List Char) :
    written (name :: names) key = name ++ '+' :: written names key := by
  simp [written]

def Whole (names : List (List Char)) : Prop :=
  ∀ name ∈ names, ∀ c ∈ name, (c == '+') = false

theorem pieces_written {names : List (List Char)} (whole : Whole names) (key : List Char) :
    Text.pieces (· == '+') (written names key) = names ++ Text.pieces (· == '+') key := by
  induction names with
  | nil => rfl
  | cons name names ih =>
    have here : Text.pieces (· == '+') name = [name] :=
      Text.pieces_of_whole (whole name List.mem_cons_self)
    rw [written_cons, Text.pieces_append_separator rfl, here,
      ih fun other listed => whole other (List.mem_cons_of_mem name listed)]
    rfl

theorem getLast?_written_ne {names : List (List Char)} {key : List Char} (nonempty : key ≠ [])
    (plain : ∀ c ∈ key, (c == '+') = false) : (written names key).getLast? ≠ some '+' := by
  intro ends
  rw [written, List.getLast?_append, List.getLast?_eq_some_getLast nonempty] at ends
  have plus := plain _ (List.getLast_mem nonempty)
  rw [Option.some.inj ends] at plus
  cases plus

theorem parts_written {names : List (List Char)} (whole : Whole names) {key : List Char}
    (nonempty : key ≠ []) (plain : ∀ c ∈ key, (c == '+') = false) :
    parts (written names key) = names ++ [key] := by
  have last : ['+', '+'].isSuffixOf (written names key) = false := by
    rw [Bool.eq_false_iff, ne_eq, List.isSuffixOf_iff_suffix]
    rintro ⟨before, joined⟩
    refine @getLast?_written_ne names _ nonempty plain ?_
    rw [← joined]
    simp
  rw [parts, pieces_written whole, Text.pieces_of_whole plain, last]
  rfl

theorem parts_written_plus {names : List (List Char)} (whole : Whole names)
    (nonempty : names ≠ []) : parts (written names ['+']) = names ++ [['+']] := by
  obtain ⟨init, name, rfl⟩ : ∃ init name, names = init ++ [name] :=
    ⟨_, _, (List.dropLast_concat_getLast nonempty).symm⟩
  have last : ['+', '+'].isSuffixOf (written (init ++ [name]) ['+']) = true := by
    rw [List.isSuffixOf_iff_suffix]
    exact ⟨init.flatMap (· ++ ['+']) ++ name, by simp [written]⟩
  have plus : Text.pieces (· == '+') ['+'] = [[], []] := rfl
  rw [parts, pieces_written whole, plus, last, if_pos rfl]
  simp

theorem parts_written_key {names : List (List Char)} (whole : Whole names) {key : List Char}
    (single : key = ['+'] ∨ key ≠ [] ∧ ∀ c ∈ key, (c == '+') = false)
    (long : written names key ≠ ['+']) : parts (written names key) = names ++ [key] := by
  rcases single with rfl | ⟨nonempty, plain⟩
  · refine parts_written_plus whole ?_
    rintro rfl
    exact long rfl
  · exact parts_written whole nonempty plain

/-! Keys and modifiers. -/

theorem readKey_name (k : KeyKind) :
    readKey (Named.name k).toList =
      if k.hasName then .ok (.pressed k) else .error (.unknownKey (Named.name k).toList) := by
  cases k <;> rfl

theorem readKey_keyText {e : KeyEvent} (h : e.Legible) : readKey e.keyText = .ok e.bare := by
  obtain ⟨valid, special, exact⟩ := h
  by_cases typed : e.kind = .char
  · rw [KeyEvent.keyText, if_pos typed, KeyEvent.bare, typed]
    rfl
  · have named : e.kind.hasName = true := by
      generalize e.kind = k at *
      cases k with
      | invalid => exact absurd rfl valid
      | special => exact absurd rfl special
      | char => exact absurd rfl typed
      | _ => rfl
    rw [KeyEvent.keyText, if_neg typed, readKey_name, if_pos named, KeyEvent.bare,
      exact.resolve_left typed]
    rfl

theorem holdAll_labels (chord : List Char) (e : KeyEvent) (ms : List Modifier) :
    holdAll chord e (ms.map Modifier.label) = .ok (ms.foldl Modifier.hold e) := by
  induction ms generalizing e with
  | nil => rfl
  | cons m ms ih =>
    rw [List.map_cons, holdAll, Modifier.ofText?_label]
    exact ih (m.hold e)

theorem key_of_holdAll {chord : List Char} {names : List (List Char)} {e e' : KeyEvent}
    (h : holdAll chord e names = .ok e') : e'.kind = e.kind ∧ e'.c = e.c := by
  induction names generalizing e with
  | nil =>
    rw [Except.ok.inj h]
    exact ⟨rfl, rfl⟩
  | cons name names ih =>
    rw [holdAll] at h
    split at h
    · rename_i m _
      have kept : (m.hold e).kind = e.kind ∧ (m.hold e).c = e.c := by cases m <;> exact ⟨rfl, rfl⟩
      exact ⟨(ih h).1.trans kept.1, (ih h).2.trans kept.2⟩
    · cases h

theorem readKey_cases {name : List Char} {e : KeyEvent} (h : readKey name = .ok e) :
    (∃ c, name = [c] ∧ e = .typed c) ∨ ∃ k, KeyKind.read name = .ok k ∧ e = .pressed k := by
  unfold readKey at h
  split at h
  · cases h
  · rw [← Except.ok.inj h]
    exact .inl ⟨_, rfl, rfl⟩
  · cases found : KeyKind.read name with
    | error e => rw [found] at h; cases h
    | ok k =>
      rw [found] at h
      exact .inr ⟨k, rfl, (Except.ok.inj h).symm⟩

theorem legible_of_readKey {name : List Char} {e : KeyEvent} (h : readKey name = .ok e) :
    e.Legible := by
  rcases readKey_cases h with ⟨c, _, rfl⟩ | ⟨k, found, rfl⟩
  · exact KeyEvent.legible_typed c
  · exact KeyEvent.legible_pressed (KeyKind.hasName_of_ofText? (KeyKind.read_eq_ok.1 found))

/-! Whole chords. -/

theorem read_cases {text : List Char} {e : KeyEvent} (h : read text = .ok e) :
    text = ['+'] ∧ e = .typed '+' ∨
      ∃ key, readKey ((parts text).getLastD []) = .ok key ∧
        holdAll text key (parts text).dropLast = .ok e := by
  unfold read at h
  split at h
  · rename_i plus
    exact .inl ⟨plus, (Except.ok.inj h).symm⟩
  · cases found : readKey ((parts text).getLastD []) with
    | error e => rw [found] at h; cases h
    | ok key =>
      rw [found] at h
      exact .inr ⟨key, rfl, h⟩

theorem legible_of_read {text : List Char} {e : KeyEvent} (h : read text = .ok e) :
    e.Legible := by
  rcases read_cases h with ⟨_, rfl⟩ | ⟨key, found, held⟩
  · exact KeyEvent.legible_typed '+'
  · have legible := legible_of_readKey found
    obtain ⟨kind, c⟩ := key_of_holdAll held
    rwa [KeyEvent.Legible, kind, c]

theorem text_eq_written (e : KeyEvent) :
    e.text = written (e.held.map Modifier.label) e.keyText := by
  obtain ⟨kind, c, ctrl, shift, alt⟩ := e
  cases ctrl <;> cases shift <;> cases alt <;> rfl

theorem keyText_single (e : KeyEvent) :
    e.keyText = ['+'] ∨ e.keyText ≠ [] ∧ ∀ c ∈ e.keyText, (c == '+') = false := by
  unfold KeyEvent.keyText
  split
  · by_cases plus : e.c = '+'
    · exact .inl (by rw [plus])
    · exact .inr ⟨by simp, by simpa using plus⟩
  · have free (k : KeyKind) : (Named.name k).toList ≠ [] ∧
        (Named.name k).toList.all (· != '+') = true := by cases k <;> decide
    exact .inr (by simpa using free e.kind)

theorem eq_typed_plus_of_text {e : KeyEvent} (h : e.text = ['+']) : e = .typed '+' := by
  have free : e.held = [] := by
    cases held : e.held with
    | nil => rfl
    | cons m ms =>
      rw [text_eq_written, held, List.map_cons, written_cons] at h
      have labelled : ∀ rest, m.label ++ rest ≠ ['+'] := by cases m <;> simp [Modifier.label]
      exact absurd h (labelled _)
  have key : e.keyText = ['+'] := by
    rw [text_eq_written, free] at h
    exact h
  have kind : e.kind = .char ∧ e.c = '+' := by
    unfold KeyEvent.keyText at key
    split at key
    · rename_i typed
      exact ⟨typed, List.singleton_inj.1 key⟩
    · generalize e.kind = k at key
      cases k <;> cases key
  have bare := e.foldl_hold_bare
  rw [free, KeyEvent.bare, kind.1, kind.2] at bare
  exact bare.symm

theorem read_text {e : KeyEvent} (h : e.Legible) : read e.text = .ok e := by
  have whole : Whole (e.held.map Modifier.label) := by
    intro name listed
    obtain ⟨m, _, rfl⟩ := List.mem_map.1 listed
    exact m.label_whole
  by_cases plus : e.text = ['+']
  · rw [plus, eq_typed_plus_of_text plus]
    rfl
  · have cut : parts e.text = e.held.map Modifier.label ++ [e.keyText] := by
      rw [text_eq_written] at plus ⊢
      exact parts_written_key whole (keyText_single e) plus
    rw [read, if_neg plus, cut, List.getLastD_concat, List.dropLast_concat, readKey_keyText h]
    exact (holdAll_labels e.text e.bare e.held).trans (congrArg _ e.foldl_hold_bare)

/-- A key press reads back from its text exactly if the text tells all of it, and that holds of
every key press that a chord reads as. -/
theorem read_text_iff_legible :
    (∀ e : KeyEvent, read e.text = .ok e ↔ e.Legible) ∧
      ∀ text e, read text = .ok e → e.Legible ∧ read e.text = .ok e := by
  refine ⟨fun e => ⟨legible_of_read, read_text⟩, fun text e h => ?_⟩
  have legible := legible_of_read h
  exact ⟨legible, read_text legible⟩

theorem read_text_iff_legible_shift :
    ∃ e, read "control+SHIFT+shift".toList = .ok e ∧ e.text = "Ctrl+Shift+Shift".toList ∧
      e.Legible ∧ read e.text = .ok e := by
  have chord : read "control+SHIFT+shift".toList = .ok ⟨.shift, '\x00', true, true, false⟩ := rfl
  exact ⟨_, chord, by decide, read_text_iff_legible.2 _ _ chord⟩

/-! The characters of a chord. -/

theorem c_of_readKey {name : List Char} {e : KeyEvent} (h : readKey name = .ok e) :
    e.c ∈ name ∨ e.c = '\x00' := by
  rcases readKey_cases h with ⟨c, rfl, rfl⟩ | ⟨k, _, rfl⟩
  · exact .inl List.mem_cons_self
  · exact .inr rfl

theorem mem_of_mem_parts {text part : List Char} (h : part ∈ parts text) :
    ∀ c ∈ part, c ∈ text ∨ c = '+' := by
  intro c member
  have kept (listed : part ∈ Text.pieces (· == '+') text) : c ∈ text ∨ c = '+' :=
    .inl (Text.of_mem_pieces listed c member).2
  simp only [parts] at h
  split at h
  · rcases List.mem_append.1 h with earlier | plus
    · exact kept (List.dropLast_subset _ (List.dropLast_subset _ earlier))
    · rw [List.mem_singleton.1 plus] at member
      exact .inr (List.mem_singleton.1 member)
  · exact kept h

theorem c_of_read {text : List Char} {e : KeyEvent} (h : read text = .ok e) :
    e.c ∈ text ∨ e.c = '+' ∨ e.c = '\x00' := by
  rcases read_cases h with ⟨_, rfl⟩ | ⟨key, found, held⟩
  · exact .inr (.inl rfl)
  · rw [(key_of_holdAll held).2]
    rcases c_of_readKey found with member | none
    · rcases List.mem_cons.1 (List.getLastD_mem_cons) with empty | listed
      · rw [empty] at member
        cases member
      · exact (mem_of_mem_parts listed _ member).imp_right .inl
    · exact .inr (.inr none)

end Chord

end CheatCodes
