import CheatCodes.Proofs.Yaml.Lines
/-!
Every written character may stand in a stream and is none of the line ends that a reader replaces.
Main statement: `tokens?_of_lines`.
-/
namespace CheatCodes.Yaml

def Writable (cs : List Char) : Prop :=
  ∀ c ∈ cs, isWritable c = true

theorem isAllowed_of_isWritable {c : Char} (writable : isWritable c = true) :
    isAllowed c = true := by
  simp only [isWritable, isAllowed, Bool.or_eq_true, Bool.and_eq_true, decide_eq_true_eq,
    beq_iff_eq, bne_iff_ne] at writable ⊢
  omega

theorem joinBreaks_of_writable {cs : List Char} (writable : Writable cs) : joinBreaks cs = cs := by
  induction cs with
  | nil => rfl
  | cons c cs ih =>
    have first : c ≠ '\x0d' ∧ c ≠ '\x85' := by
      have here : isWritable c = true := writable c List.mem_cons_self
      constructor <;> intro same <;> rw [same] at here <;> exact absurd here (by decide)
    have rest : joinBreaks cs = cs := ih fun d member => writable d (List.mem_cons_of_mem c member)
    rw [joinBreaks]
    · simp [first, rest]
    · intro ds same
      exact absurd same first.1

theorem tokens?_of_lines {bound : Nat} {text : List Char} {ts : List Token}
    (lines : Lines bound 0 [] text ts) (writable : Writable text) : tokens? text = some ts := by
  have allowed : text.all isAllowed = true :=
    List.all_eq_true.2 fun c member => isAllowed_of_isWritable (writable c member)
  simp only [tokens?, allowed, if_true, joinBreaks_of_writable writable]
  exact run_ofChars lines

/-! What is written. -/

namespace Writable

theorem nil : Writable [] := by
  simp [Writable]

theorem ite {p : Prop} [Decidable p] {cs ds : List Char} (yes : Writable cs) (no : Writable ds) :
    Writable (if p then cs else ds) := by
  split <;> assumption

theorem append {cs ds : List Char} (front : Writable cs) (back : Writable ds) :
    Writable (cs ++ ds) :=
  List.forall_mem_append.2 ⟨front, back⟩

theorem cons {c : Char} {cs : List Char} (first : isWritable c = true) (rest : Writable cs) :
    Writable (c :: cs) :=
  List.forall_mem_cons.2 ⟨first, rest⟩

theorem flatMap {α : Type} {xs : List α} {f : α → List Char} (each : ∀ x ∈ xs, Writable (f x)) :
    Writable (xs.flatMap f) := by
  intro c member
  obtain ⟨x, among, here⟩ := List.mem_flatMap.1 member
  exact each x among c here

theorem indentation (depth : Nat) : Writable (Yaml.indentation depth) := by
  intro c member
  rw [List.eq_of_mem_replicate member]
  rfl

theorem hexDigits (n code : Nat) : Writable (Yaml.hexDigits n code) := by
  have every : ∀ v : Fin 16, isWritable (Nat.digitChar v).toUpper = true := by decide
  induction n generalizing code with
  | zero => exact fun c member => absurd member (by simp [Yaml.hexDigits])
  | succ n ih =>
    exact (ih (code / 16)).append
      (.cons (every ⟨code % 16, Nat.mod_lt code (by decide)⟩) nil)

theorem escaped (c : Char) : Writable (Yaml.escaped c) := by
  have digits (mark : Char) (plain : isWritable mark = true) (n : Nat) :
      Writable ('\\' :: mark :: Yaml.hexDigits n c.toNat) :=
    .cons rfl (.cons plain (hexDigits n c.toNat))
  unfold Yaml.escaped
  split
  iterate 14 exact List.all_eq_true.1 rfl
  dsimp only
  split
  · rename_i writable
    exact .cons writable nil
  · split
    · exact digits 'x' rfl 2
    · split
      · exact digits 'u' rfl 4
      · exact digits 'U' rfl 8

theorem writeDouble (text : List Char) : Writable (Yaml.writeDouble text) :=
  .cons rfl (.append (.flatMap fun c _ => escaped c) (.cons rfl nil))

theorem writeSingle {text : List Char} (writable : Writable text) (depth : Nat) :
    Writable (Yaml.writeSingle depth text) := by
  have rest (margin : Bool) : Writable (writeSingleRest depth margin text) := by
    induction text generalizing margin with
    | nil => exact (ite (indentation depth) nil).append (.cons rfl nil)
    | cons c cs ih =>
      have more := ih fun d member => writable d (List.mem_cons_of_mem c member)
      have first : isWritable c = true := writable c List.mem_cons_self
      unfold writeSingleRest
      split
      · exact (ite (.cons rfl nil) nil).append (.cons first (more true))
      · exact ((ite (indentation depth) nil).append
          (ite (.cons rfl (.cons rfl nil)) (.cons first nil))).append (more false)
  exact .cons rfl (rest false)

theorem writeLiteral {text : List Char} (writable : Writable text) (depth : Nat) :
    Writable (Yaml.writeLiteral depth text) := by
  have lines (margin : Bool) : Writable (writeLiteralLines depth margin text) := by
    induction text generalizing margin with
    | nil => exact nil
    | cons c cs ih =>
      have more := ih fun d member => writable d (List.mem_cons_of_mem c member)
      have first : isWritable c = true := writable c List.mem_cons_self
      unfold writeLiteralLines
      split
      · exact .cons first (more true)
      · exact (ite (indentation depth) nil).append (.cons first (more false))
  have mark : Writable (chompMark text) := by
    unfold chompMark
    split
    · exact .cons rfl nil
    · exact ite (.cons rfl nil) (ite (.cons rfl nil) nil)
  exact .cons rfl (((ite (.cons rfl nil) nil).append mark).append (.cons rfl (lines true)))

theorem writeScalar (isKey : Bool) (depth : Nat) (text : List Char) :
    Writable (Yaml.writeScalar isKey depth text) := by
  unfold Yaml.writeScalar
  rcases styleOf_cases isKey text with
    ⟨style, plain⟩ | ⟨style, single, -⟩ | ⟨style, -, -, literal⟩ | style
  · rw [style]
    exact plain.writable
  · rw [style]
    exact writeSingle single.writable depth
  · rw [style]
    exact writeLiteral literal depth
  · rw [style]
    exact writeDouble text

theorem closeLine {written : List Char} (writable : Writable written) :
    Writable (Yaml.closeLine written) := by
  unfold Yaml.closeLine
  split
  · exact writable
  · exact writable.append (.cons rfl nil)

theorem writeEntry {value : List Char} (writable : Writable value) (depth : Nat) (key : String) :
    Writable (Yaml.writeEntry depth key value) := by
  have valued : Writable (Yaml.closeLine ([':', ' '] ++ value)) :=
    closeLine (.cons rfl (.cons rfl writable))
  unfold Yaml.writeEntry
  split
  · exact ((indentation depth).append (writeScalar true (depth + 2) key.toList)).append valued
  · exact ((((indentation depth).append (.cons rfl (.cons rfl nil))).append
      (closeLine (writeScalar false (depth + 2) key.toList))).append (indentation depth)).append
        valued

end Writable

end CheatCodes.Yaml
