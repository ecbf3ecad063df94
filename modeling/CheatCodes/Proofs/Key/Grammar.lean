import CheatCodes.Proofs.Key.Name
import Mathlib.Data.List.Forall2
/-!
The grammar of chords: names of modifiers, each with a plus sign behind it, and then a key, which
may be the plus sign itself. Every text that does not break off behind a plus sign is cut in just
one way into names and a last part; the last part is read first and the names from the left.
-/
namespace CheatCodes

namespace Modifier

def names : Modifier → List String
  | .ctrl => ["ctrl", "control"]
  | .shift => ["shift"]
  | .alt => ["alt"]

def IsNamed (m : Modifier) (text : List Char) : Prop :=
  ∃ name ∈ m.names, Text.Alike text name.toList

theorem ofText?_eq_some_iff {text : List Char} {m : Modifier} :
    ofText? text = some m ↔ m.IsNamed text := by
  constructor
  · intro h
    unfold ofText? at h
    split at h
    case h_5 => cases h
    all_goals
      rename_i spelled
      rw [← Option.some.inj h]
      refine ⟨String.ofList (text.map Char.toLower), ?_, ?_⟩
      · rw [spelled]
        decide
      · rw [spelled]
        exact (Text.eq_toList_of_ofList_eq spelled).trans (by decide)
  · rintro ⟨name, listed, alike⟩
    have every : ∀ name ∈ m.names, ofText? name.toList = some m := by cases m <;> decide
    rw [← every name listed, ofText?, alike, ofText?]

theorem IsNamed.whole {m : Modifier} {text : List Char} (h : m.IsNamed text) :
    ∀ c ∈ text, (c == '+') = false := by
  obtain ⟨name, listed, alike⟩ := h
  have free : ∀ name ∈ m.names, '+' ∉ name.toList.map Char.toLower := by cases m <;> decide
  intro c member
  refine beq_eq_false_iff_ne.2 ?_
  rintro rfl
  refine free name listed ?_
  rw [← alike]
  exact List.mem_map.2 ⟨'+', member, rfl⟩

end Modifier

def KeyEvent.under (e : KeyEvent) (ms : List Modifier) : KeyEvent :=
  ⟨e.kind, e.c, .ctrl ∈ ms, .shift ∈ ms, .alt ∈ ms⟩

theorem Modifier.foldl_hold (ms : List Modifier) (e : KeyEvent) :
    ms.foldl hold e =
      ⟨e.kind, e.c, e.ctrl || .ctrl ∈ ms, e.shift || .shift ∈ ms, e.alt || .alt ∈ ms⟩ := by
  induction ms generalizing e with
  | nil => simp
  | cons m ms ih =>
    rw [List.foldl_cons, ih]
    cases m <;> simp [hold]

namespace Chord

/-- The text is a key: a character of its own, or a longer name of a kind. -/
inductive IsKey : List Char → KeyEvent → Prop
  | typed (c : Char) : IsKey [c] (.typed c)
  | pressed {name : List Char} {k : KeyKind} (long : 2 ≤ name.length)
    (whole : ∀ c ∈ name, (c == '+') = false) (named : KeyKind.read name = .ok k) :
    IsKey name (.pressed k)

/-- The text is made up of names of the modifiers, each with a plus sign behind it, and the key. -/
def Spells (text : List Char) (ms : List Modifier) (e : KeyEvent) : Prop :=
  ∃ names last, List.Forall₂ Modifier.IsNamed ms names ∧ IsKey last e ∧ text = written names last

/-- The text breaks off behind a plus sign that is not the plus key. -/
def Dangling (text : List Char) : Prop :=
  ['+'] <:+ text ∧ text ≠ ['+'] ∧ ¬ ['+', '+'] <:+ text

/-- What can stand behind the names: the plus key or a text without a plus sign. -/
def Closing (last : List Char) : Prop :=
  last = ['+'] ∨ last ≠ [] ∧ ∀ c ∈ last, (c == '+') = false

theorem IsKey.closing {last : List Char} {e : KeyEvent} (h : IsKey last e) : Closing last := by
  cases h with
  | typed c =>
    by_cases plus : c = '+'
    · exact .inl (by rw [plus])
    · exact .inr ⟨List.cons_ne_nil _ _, by simpa using plus⟩
  | pressed long whole _ => exact .inr ⟨List.ne_nil_of_length_pos (by omega), whole⟩

theorem IsKey.foldl_hold {last : List Char} {e : KeyEvent} (h : IsKey last e) (ms : List Modifier) :
    ms.foldl Modifier.hold e = e.under ms := by
  rw [Modifier.foldl_hold]
  cases h <;> rfl

/-! The parts of a text. -/

theorem exists_written (text : List Char) :
    ∃ names last, Whole names ∧ (∀ c ∈ last, (c == '+') = false) ∧ text = written names last := by
  induction text with
  | nil => exact ⟨[], [], nofun, nofun, rfl⟩
  | cons c cs ih =>
    obtain ⟨names, last, whole, plain, rfl⟩ := ih
    by_cases plus : c = '+'
    · subst plus
      refine ⟨[] :: names, last, ?_, plain, (written_cons [] names last).symm⟩
      exact List.forall_mem_cons.2 ⟨nofun, whole⟩
    · have other : (c == '+') = false := beq_eq_false_iff_ne.2 plus
      cases names with
      | nil => exact ⟨[], c :: last, nofun, List.forall_mem_cons.2 ⟨other, plain⟩, rfl⟩
      | cons name names =>
        obtain ⟨first, rest⟩ := List.forall_mem_cons.1 whole
        refine ⟨(c :: name) :: names, last, ?_, plain, ?_⟩
        · exact List.forall_mem_cons.2 ⟨List.forall_mem_cons.2 ⟨other, first⟩, rest⟩
        · rw [written_cons, written_cons, List.cons_append]

theorem text_cases (text : List Char) :
    (text = [] ∨ Dangling text) ∨
      ∃ names last, Whole names ∧ Closing last ∧ text = written names last := by
  obtain ⟨names, last, whole, plain, rfl⟩ := exists_written text
  by_cases ends : last = []
  · subst ends
    rcases List.eq_nil_or_concat names with rfl | ⟨init, name, rfl⟩
    · exact .inl (.inl rfl)
    have before : written (init.concat name) [] = written init name ++ ['+'] := by simp [written]
    have first : Whole init := fun other listed => whole other (by simp [listed])
    by_cases empty : name = []
    · -- the plus sign behind an empty name is the plus key
      subst empty
      refine .inr ⟨init, ['+'], first, .inl rfl, ?_⟩
      rw [before, written, written, List.append_nil]
    · refine .inl (.inr ⟨⟨_, before.symm⟩, ?_, ?_⟩)
      · rw [before]
        intro alone
        have none : written init name = [] := by simpa using alone
        exact empty (List.append_eq_nil_iff.1 none).2
      · rw [before]
        intro twice
        rcases List.suffix_concat_iff.1 twice with none | ⟨plus, same, ends⟩
        · cases none
        · have one : plus = ['+'] := (List.append_left_inj ['+']).1 same.symm
          obtain ⟨start, joined⟩ := one ▸ ends
          exact getLast?_written_ne empty (whole name (by simp))
            (by rw [← joined, List.getLast?_concat])
  · exact .inr ⟨names, last, whole, .inr ⟨ends, plain⟩, rfl⟩

theorem read_of_dangling {text : List Char} (h : text = [] ∨ Dangling text) :
    read text = .error .emptyChord := by
  rcases h with rfl | ⟨⟨init, rfl⟩, long, once⟩
  · rfl
  · have cut : parts (init ++ ['+']) = Text.pieces (· == '+') init ++ [[]] := by
      rw [parts, if_neg (by simpa using once), Text.pieces_append_separator rfl]
      rfl
    rw [read, if_neg long, cut, List.getLastD_concat]
    rfl

theorem read_written {names : List (List Char)} {last : List Char} (whole : Whole names)
    (closing : Closing last) :
    read (written names last) =
      readKey last >>= fun e => holdAll (written names last) e names := by
  by_cases plus : written names last = ['+']
  · cases names with
    | nil =>
      have key : last = ['+'] := plus
      rw [key]
      rfl
    | cons name names =>
      rw [written_cons] at plus
      have none : written names last = [] := by
        have size := congrArg List.length plus
        exact List.length_eq_zero_iff.1 (by simp at size; omega)
      have empty : last = [] := (List.append_eq_nil_iff.1 none).2
      rcases closing with key | ⟨nonempty, _⟩
      · rw [key] at empty
        cases empty
      · exact absurd empty nonempty
  · rw [read, if_neg plus, parts_written_key whole closing plus, List.getLastD_concat,
      List.dropLast_concat]

/-! What is read of the parts. -/

theorem Closing.cases {last : List Char} (h : Closing last) :
    (∃ c, last = [c]) ∨ 2 ≤ last.length ∧ ∀ c ∈ last, (c == '+') = false := by
  rcases h with rfl | ⟨nonempty, plain⟩
  · exact .inl ⟨'+', rfl⟩
  · obtain ⟨c, rest, rfl⟩ := List.exists_cons_of_ne_nil nonempty
    cases rest with
    | nil => exact .inl ⟨c, rfl⟩
    | cons d rest => exact .inr ⟨by simp, plain⟩

theorem readKey_of_long {name : List Char} (long : 2 ≤ name.length) :
    readKey name = (KeyKind.read name).map .pressed := by
  match name with
  | _ :: _ :: _ => rfl

theorem readKey_eq_ok_iff {last : List Char} (closing : Closing last) {e : KeyEvent} :
    readKey last = .ok e ↔ IsKey last e := by
  rcases closing.cases with ⟨c, rfl⟩ | ⟨long, plain⟩
  · constructor
    · intro h
      rw [← Except.ok.inj h]
      exact .typed c
    · intro h
      cases h with
      | typed c => rfl
      | pressed long _ _ => exact absurd long (by simp)
  · rw [readKey_of_long long]
    constructor
    · intro h
      cases named : KeyKind.read last with
      | error error => rw [named] at h; cases h
      | ok k =>
        rw [named] at h
        rw [← Except.ok.inj h]
        exact .pressed long plain named
    · intro h
      cases h with
      | typed c => exact absurd long (by simp)
      | pressed _ _ named => rw [named]; rfl

theorem readKey_eq_error_iff {last : List Char} (closing : Closing last) {error : KeyError} :
    readKey last = .error error ↔
      2 ≤ last.length ∧ (∀ k, KeyKind.read last ≠ .ok k) ∧ error = .unknownKey last := by
  rcases closing.cases with ⟨c, rfl⟩ | ⟨long, _⟩
  · exact iff_of_false nofun fun h => absurd h.1 (by simp)
  · have first : readKey last = .error error ↔ KeyKind.read last = .error error := by
      rw [readKey_of_long long]
      cases KeyKind.read last with
      | error _ => exact Iff.of_eq (by simp [Except.map])
      | ok k => exact iff_of_false nofun nofun
    rw [first, KeyKind.read_eq_error, and_comm (a := error = _)]
    exact (and_iff_right long).symm

theorem holdAll_eq_ok_iff {chord : List Char} {names : List (List Char)} {e e' : KeyEvent} :
    holdAll chord e names = .ok e' ↔
      ∃ ms, List.Forall₂ Modifier.IsNamed ms names ∧ e' = ms.foldl Modifier.hold e := by
  induction names generalizing e with
  | nil => simp [holdAll, eq_comm]
  | cons name names ih =>
    rw [holdAll]
    cases found : Modifier.ofText? name with
    | none =>
      simp only [reduceCtorEq, false_iff]
      rintro ⟨ms, named, _⟩
      cases named with
      | cons here _ =>
        rw [Modifier.ofText?_eq_some_iff.2 here] at found
        cases found
    | some m =>
      simp only [ih]
      constructor
      · rintro ⟨ms, named, rfl⟩
        exact ⟨m :: ms, .cons (Modifier.ofText?_eq_some_iff.1 found) named, rfl⟩
      · rintro ⟨_, named, rfl⟩
        cases named with
        | cons here later =>
          rw [Modifier.ofText?_eq_some_iff.2 here] at found
          rw [← Option.some.inj found]
          exact ⟨_, later, rfl⟩

theorem holdAll_eq_error_iff {chord : List Char} {names : List (List Char)} {e : KeyEvent}
    {error : KeyError} :
    holdAll chord e names = .error error ↔
      ∃ before name after, names = before ++ name :: after ∧
        (∀ other ∈ before, ∃ m : Modifier, m.IsNamed other) ∧ (∀ m : Modifier, ¬ m.IsNamed name) ∧
        error = .unknownModifier chord name := by
  induction names generalizing e with
  | nil => exact iff_of_false (by simp [holdAll]) (by simp)
  | cons name names ih =>
    rw [holdAll]
    cases found : Modifier.ofText? name with
    | none =>
      have unnamed (m : Modifier) : ¬ m.IsNamed name := fun named => by
        rw [Modifier.ofText?_eq_some_iff.2 named] at found
        cases found
      constructor
      · intro h
        exact ⟨[], name, names, rfl, by simp, unnamed, (Except.error.inj h).symm⟩
      · rintro ⟨before, bad, after, cut, known, _, rfl⟩
        cases before with
        | nil => rw [(List.cons.inj cut).1]
        | cons first before =>
          rw [(List.cons.inj cut).1] at unnamed
          obtain ⟨m, named⟩ := known first List.mem_cons_self
          exact absurd named (unnamed m)
    | some m =>
      have named := Modifier.ofText?_eq_some_iff.1 found
      simp only [ih]
      constructor
      · rintro ⟨before, bad, after, rfl, known, unnamed, rfl⟩
        exact ⟨name :: before, bad, after, rfl, List.forall_mem_cons.2 ⟨⟨m, named⟩, known⟩, unnamed,
          rfl⟩
      · rintro ⟨before, bad, after, cut, known, unnamed, rfl⟩
        cases before with
        | nil =>
          rw [← (List.cons.inj cut).1] at unnamed
          exact absurd named (unnamed m)
        | cons first before =>
          exact ⟨before, bad, after, (List.cons.inj cut).2, (List.forall_mem_cons.1 known).2,
            unnamed, rfl⟩

theorem whole_of_named {ms : List Modifier} {names : List (List Char)}
    (named : List.Forall₂ Modifier.IsNamed ms names) : Whole names := by
  induction named with
  | nil => exact nofun
  | cons here _ ih => exact List.forall_mem_cons.2 ⟨here.whole, ih⟩

/-! Whole chords. -/

theorem read_eq_ok_iff {text : List Char} {e : KeyEvent} :
    read text = .ok e ↔ ∃ ms key, Spells text ms key ∧ e = key.under ms := by
  constructor
  · intro h
    rcases text_cases text with broken | ⟨names, last, whole, closing, rfl⟩
    · rw [read_of_dangling broken] at h
      cases h
    · rw [read_written whole closing] at h
      cases found : readKey last with
      | error error => rw [found] at h; cases h
      | ok key =>
        rw [found] at h
        obtain ⟨ms, named, rfl⟩ := holdAll_eq_ok_iff.1 h
        have isKey := (readKey_eq_ok_iff closing).1 found
        exact ⟨ms, key, ⟨names, last, named, isKey, rfl⟩, isKey.foldl_hold ms⟩
  · rintro ⟨ms, key, ⟨names, last, named, isKey, rfl⟩, rfl⟩
    rw [read_written (whole_of_named named) isKey.closing,
      (readKey_eq_ok_iff isKey.closing).2 isKey]
    exact holdAll_eq_ok_iff.2 ⟨ms, named, (isKey.foldl_hold ms).symm⟩

inductive Faulty (text : List Char) : KeyError → Prop
  | noKey (h : text = [] ∨ Dangling text) : Faulty text .emptyChord
  /-- The key is no name of a kind, whatever stands before it. -/
  | badKey {names : List (List Char)} {name : List Char} (whole : Whole names)
    (long : 2 ≤ name.length) (plain : ∀ c ∈ name, (c == '+') = false)
    (cut : text = written names name) (unknown : ∀ k, KeyKind.read name ≠ .ok k) :
    Faulty text (.unknownKey name)
  /-- The key is one, and all names before this one are names of modifiers. -/
  | badModifier {before after : List (List Char)} {name last : List Char} {key : KeyEvent}
    (whole : Whole (before ++ name :: after)) (isKey : IsKey last key)
    (cut : text = written (before ++ name :: after) last)
    (known : ∀ other ∈ before, ∃ m : Modifier, m.IsNamed other)
    (unknown : ∀ m : Modifier, ¬ m.IsNamed name) : Faulty text (.unknownModifier text name)

theorem read_eq_error_iff {text : List Char} {error : KeyError} :
    read text = .error error ↔ Faulty text error := by
  constructor
  · intro h
    rcases text_cases text with broken | ⟨names, last, whole, closing, rfl⟩
    · rw [read_of_dangling broken] at h
      rw [← Except.error.inj h]
      exact .noKey broken
    · rw [read_written whole closing] at h
      cases found : readKey last with
      | error _ =>
        rw [found] at h
        obtain ⟨long, unknown, rfl⟩ := (readKey_eq_error_iff closing).1 found
        rw [← Except.error.inj h]
        obtain ⟨c, rfl⟩ | ⟨_, plain⟩ := closing.cases
        · exact absurd long (by simp)
        · exact .badKey whole long plain rfl unknown
      | ok key =>
        rw [found] at h
        obtain ⟨before, name, after, rfl, known, unknown, rfl⟩ := holdAll_eq_error_iff.1 h
        exact .badModifier whole ((readKey_eq_ok_iff closing).1 found) rfl known unknown
  · intro h
    cases h with
    | noKey broken => exact read_of_dangling broken
    | badKey whole long plain cut unknown =>
      have closing : Closing _ := .inr ⟨List.ne_nil_of_length_pos (by omega), plain⟩
      rw [cut, read_written whole closing,
        (readKey_eq_error_iff closing).2 ⟨long, unknown, rfl⟩]
      rfl
    | badModifier whole isKey cut known unknown =>
      have fails := read_written whole isKey.closing
      rw [(readKey_eq_ok_iff isKey.closing).2 isKey, ← cut] at fails
      exact fails.trans (holdAll_eq_error_iff.2 ⟨_, _, _, rfl, known, unknown, rfl⟩)

/-- The chords are the texts of the grammar and read as the key under the named modifiers. A text
without a key is an empty chord; of any other the key is looked at before the modifiers, and these
from the left. -/
theorem read_grammar (text : List Char) :
    (∀ e, read text = .ok e ↔ ∃ ms key, Spells text ms key ∧ e = key.under ms) ∧
      (read text = .error .emptyChord ↔ text = [] ∨ Dangling text) ∧
      ∀ error, read text = .error error ↔ Faulty text error := by
  refine ⟨fun e => read_eq_ok_iff, ?_, fun error => read_eq_error_iff⟩
  rw [read_eq_error_iff]
  constructor
  · intro faulty
    cases faulty with
    | noKey broken => exact broken
  · exact .noKey

example : read "Alt+++".toList = .error (.unknownModifier "Alt+++".toList []) := rfl

end Chord

end CheatCodes
