import CheatCodes.Proofs.Key.Chord
import CheatCodes.Proofs.Text.Numeral
/-!
The names of keys. A text reads as the kind whose name or other name it is, in letters of either
case. The function keys are the exception: they are found by the number behind their letter, and
every numeral of it will do, not only the digits that the name has.
-/
namespace CheatCodes

theorem Text.eq_toList_of_ofList_eq {text : List Char} {s : String} (h : String.ofList text = s) :
    text = s.toList := by
  rw [← h, String.toList_ofList]

def Text.Alike (text other : List Char) : Prop :=
  text.map Char.toLower = other.map Char.toLower

instance (text other : List Char) : Decidable (Text.Alike text other) :=
  inferInstanceAs (Decidable (_ = _))

namespace KeyKind

def otherNames : KeyKind → List String
  | .escape => ["esc"]
  | .enter => ["enter"]
  | .back => ["backspace"]
  | .delete => ["del"]
  | _ => []

def IsNamed (k : KeyKind) (text : List Char) : Prop :=
  k.hasName = true ∧ ∃ name ∈ Named.name k :: k.otherNames, Text.Alike text name.toList

instance (k : KeyKind) (text : List Char) : Decidable (k.IsNamed text) :=
  inferInstanceAs (Decidable (_ ∧ _))

/-- The text is the letter of a function key and a numeral of its number that is longer than the
number itself. -/
def IsPadded (k : KeyKind) (text : List Char) : Prop :=
  ∃ i numeral, k.functionIndex? = some i ∧ Text.Numeral (i + 1) numeral ∧
    numeral ≠ Nat.toDigits 10 (i + 1) ∧ text.map Char.toLower = 'f' :: numeral

/-! Names in lower case. -/

def spellings (k : KeyKind) : List (List Char) :=
  (Named.name k :: k.otherNames).map fun name => name.toList.map Char.toLower

theorem isNamed_iff {k : KeyKind} {text : List Char} :
    k.IsNamed text ↔ k.hasName = true ∧ text.map Char.toLower ∈ k.spellings := by
  simp only [IsNamed, spellings, List.mem_map, Text.Alike, eq_comm]

theorem ofLower?_spelling {k : KeyKind} (named : k.hasName = true) :
    ∀ name ∈ k.spellings, ofLower? name = some k := by
  revert named
  cases k <;> decide

theorem ofLower?_cases {name : List Char} {k : KeyKind} (h : ofLower? name = some k) :
    name ∈ k.spellings ∨ ∃ digits, name = 'f' :: digits ∧ ofNumber? digits = some k := by
  unfold ofLower? at h
  split at h
  case h_18 =>
    split at h
    · exact .inr ⟨_, rfl, h⟩
    · cases h
  all_goals
    rename_i spelled
    rw [← Option.some.inj h, Text.eq_toList_of_ofList_eq spelled]
    exact .inl (by decide)

theorem ofLower?_letter (digits : List Char) : ofLower? ('f' :: digits) = ofNumber? digits := by
  unfold ofLower?
  split
  case h_18 => rfl
  all_goals
    rename_i spelled
    cases Text.eq_toList_of_ofList_eq spelled

/-! Function keys. -/

theorem functionKeys_getElem?_eq_some {i : Nat} {k : KeyKind} :
    functionKeys[i]? = some k ↔ k.functionIndex? = some i := by
  constructor
  · intro found
    obtain ⟨inside, rfl⟩ := List.getElem?_eq_some_iff.1 found
    have every : ∀ i : Fin functionKeys.length, (functionKeys.get i).functionIndex? = some i.1 := by
      decide
    exact every ⟨i, inside⟩
  · intro placed
    obtain ⟨inside, same, _⟩ := List.findIdx?_eq_some_iff_getElem.1 placed
    rw [List.getElem?_eq_getElem inside]
    exact congrArg some (by simpa using same)

theorem ofNumber?_eq_some_iff {numeral : List Char} {k : KeyKind} :
    ofNumber? numeral = some k ↔
      ∃ i, k.functionIndex? = some i ∧ Text.Numeral (i + 1) numeral := by
  constructor
  · intro h
    unfold ofNumber? at h
    split at h
    · rename_i i read
      exact ⟨i, functionKeys_getElem?_eq_some.1 h, (Text.readNatural_eq_ok_iff.1 read).2⟩
    · cases h
  · rintro ⟨i, placed, spelled⟩
    have found := functionKeys_getElem?_eq_some.2 placed
    have inside : i + 1 ≤ functionKeys.length := (List.getElem?_eq_some_iff.1 found).1
    rw [ofNumber?, Text.readNatural_eq_ok_iff.2 ⟨inside, spelled⟩]
    exact found

theorem spellings_of_functionIndex? {k : KeyKind} {i : Nat} (placed : k.functionIndex? = some i) :
    k.hasName = true ∧ k.spellings = ['f' :: Nat.toDigits 10 (i + 1)] := by
  have found := functionKeys_getElem?_eq_some.2 placed
  obtain ⟨inside, rfl⟩ := List.getElem?_eq_some_iff.1 found
  have every : ∀ i : Fin functionKeys.length, (functionKeys.get i).hasName = true ∧
      (functionKeys.get i).spellings = ['f' :: Nat.toDigits 10 (i.1 + 1)] := by decide
  exact every ⟨i, inside⟩

theorem read_eq_ok_iff {text : List Char} {k : KeyKind} :
    read text = .ok k ↔ k.IsNamed text ∨ k.IsPadded text := by
  rw [read_eq_ok, ofText?, isNamed_iff]
  constructor
  · intro h
    by_cases spelled : text.map Char.toLower ∈ k.spellings
    · exact .inl ⟨hasName_of_ofText? h, spelled⟩
    · obtain ⟨numeral, lower, found⟩ := (ofLower?_cases h).resolve_left spelled
      obtain ⟨i, placed, counted⟩ := ofNumber?_eq_some_iff.1 found
      refine .inr ⟨i, numeral, placed, counted, ?_, lower⟩
      rintro rfl
      rw [lower, (spellings_of_functionIndex? placed).2] at spelled
      exact spelled List.mem_cons_self
  · rintro (⟨named, spelled⟩ | ⟨i, numeral, placed, counted, _, lower⟩)
    · exact ofLower?_spelling named _ spelled
    · rw [lower, ofLower?_letter]
      exact ofNumber?_eq_some_iff.2 ⟨i, placed, counted⟩

/-- A text reads as a kind if it is a name of it, or the letter of a function key before a longer
numeral of its number; every other text is reported as it is. -/
theorem read_named_or_padded (text : List Char) :
    (∀ k, read text = .ok k ↔ k.IsNamed text ∨ k.IsPadded text) ∧
      ∀ e, read text = .error e ↔
        e = .unknownKey text ∧ ∀ k : KeyKind, ¬ k.IsNamed text ∧ ¬ k.IsPadded text := by
  refine ⟨fun k => read_eq_ok_iff, fun e => ?_⟩
  rw [read_eq_error]
  refine and_congr_right fun _ => forall_congr' fun k => ?_
  rw [Ne, read_eq_ok_iff, not_or]

theorem read_f01 :
    read "f01".toList = .ok .f1 ∧ ∀ k : KeyKind, ¬ k.IsNamed "f01".toList := by
  refine ⟨rfl, fun k => ?_⟩
  cases k <;> decide

end KeyKind

end CheatCodes
