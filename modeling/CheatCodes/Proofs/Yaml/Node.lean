import CheatCodes.Yaml.Document
/-!
Tokens of scalars and mappings are read back as nodes, and nodes as values of known shapes. The
grammar covers block mappings and the empty mapping between braces, without anchors and tags. Main
statement: `Document.ofTokens?_of_spells`.
-/
namespace CheatCodes.Yaml

mutual

inductive Spells : List Token → Node → Prop
  | scalar (style : Style) (text : List Char) :
    Spells [.scalar style text] (.scalar none none style text)
  | braces : Spells [.flowMappingStart, .flowMappingEnd] (.mapping none [])
  | block {ts : List Token} {entries : List (Node × Node)} (inner : SpellsEntries ts entries) :
    Spells (.mappingStart :: (ts ++ [.blockEnd])) (.mapping none entries)

inductive SpellsEntries : List Token → List (Node × Node) → Prop
  | nil : SpellsEntries [] []
  | cons {ks vs ts : List Token} {k v : Node} {entries : List (Node × Node)} (key : Spells ks k)
    (value : Spells vs v) (more : SpellsEntries ts entries) :
    SpellsEntries (.key :: (ks ++ .value :: (vs ++ ts))) ((k, v) :: entries)

end

namespace Spells

variable {ts : List Token} {n : Node}

theorem present (spells : Spells ts n) (rest : List Token) :
    endsBlockNode (ts ++ rest) = false := by
  cases spells <;> rfl

theorem length_pos (spells : Spells ts n) : 0 < ts.length := by
  cases spells <;> simp

end Spells

theorem read_scalar (handles : TagHandles) (fuel : Nat) (dashes : Bool) (style : Style)
    (text : List Char) (rest : List Token) :
    Node.read handles (fuel + 1) true dashes (.scalar style text :: rest) =
      some (.scalar none none style text, rest) := by
  simp [Node.read, readProperties]

theorem read_braces (handles : TagHandles) (fuel : Nat) (dashes : Bool) (rest : List Token) :
    Node.read handles (fuel + 2) true dashes (.flowMappingStart :: .flowMappingEnd :: rest) =
      some (.mapping none [], rest) := by
  simp [Node.read, readProperties, Node.readFlowEntries]

theorem read_block {handles : TagHandles} {fuel : Nat} {ts rest : List Token}
    {entries : List (Node × Node)}
    (read : Node.readEntries handles fuel ts = some (entries, rest)) (dashes : Bool) :
    Node.read handles (fuel + 1) true dashes (.mappingStart :: ts) =
      some (.mapping none entries, rest) := by
  simp [Node.read, readProperties, read]

theorem readEntries_cons {handles : TagHandles} {fuel : Nat} {ks vs ts rest : List Token}
    {k v : Node} {entries : List (Node × Node)} (key : endsBlockNode ks = false)
    (readKey : Node.read handles fuel true true ks = some (k, .value :: vs))
    (value : endsBlockNode vs = false)
    (readValue : Node.read handles fuel true true vs = some (v, ts))
    (more : Node.readEntries handles fuel ts = some (entries, rest)) :
    Node.readEntries handles (fuel + 1) (.key :: ks) = some ((k, v) :: entries, rest) := by
  simp [Node.readEntries, key, readKey, value, readValue, more]

mutual

theorem Spells.read_eq {ts : List Token} {n : Node} (spells : Spells ts n) (handles : TagHandles)
    (fuel : Nat) (enough : ts.length ≤ fuel) (dashes : Bool) (rest : List Token) :
    Node.read handles fuel true dashes (ts ++ rest) = some (n, rest) := by
  cases spells with
  | scalar style text =>
    obtain ⟨fuel, rfl⟩ : ∃ m, fuel = m + 1 := ⟨fuel - 1, by simp at enough; omega⟩
    exact read_scalar handles fuel dashes style text rest
  | braces =>
    obtain ⟨fuel, rfl⟩ : ∃ m, fuel = m + 2 := ⟨fuel - 2, by simp at enough; omega⟩
    exact read_braces handles fuel dashes rest
  | block inner =>
    simp only [List.length_cons, List.length_append, List.length_nil] at enough
    obtain ⟨fuel, rfl⟩ : ∃ m, fuel = m + 1 := ⟨fuel - 1, by omega⟩
    have entries := inner.read_eq handles fuel (by omega) rest
    simpa using read_block entries dashes

theorem SpellsEntries.read_eq {ts : List Token} {entries : List (Node × Node)}
    (spells : SpellsEntries ts entries) (handles : TagHandles) (fuel : Nat)
    (enough : ts.length < fuel) (rest : List Token) :
    Node.readEntries handles fuel (ts ++ .blockEnd :: rest) = some (entries, rest) := by
  obtain ⟨fuel, rfl⟩ : ∃ m, fuel = m + 1 := ⟨fuel - 1, by omega⟩
  cases spells with
  | nil => simp [Node.readEntries]
  | cons key value more =>
    simp only [List.length_cons, List.length_append] at enough
    have readKey := key.read_eq handles fuel (by omega) true
    have readValue := value.read_eq handles fuel (by omega) true
    have entries := more.read_eq handles fuel (by omega) rest
    simpa using readEntries_cons (key.present _) (readKey _) (value.present _) (readValue _) entries

end

namespace Document

theorem ofTokens?_of_spells {ts : List Token} {n : Node} (spells : Spells ts n) :
    ofTokens? ts = some ⟨some n⟩ := by
  have read := spells.read_eq standardHandles (2 * ts.length + 2) (by omega) false []
  rw [List.append_nil] at read
  have root : readRoot ts = some (n, []) := by
    cases spells <;> exact read
  have held : ts ≠ [] := List.length_pos_iff.1 spells.length_pos
  unfold ofTokens?
  split
  · exact absurd rfl held
  · simp [root]

/-! Values. Nodes without an alias mean the same in every document. -/

variable (d : Document)

@[simp] theorem text?_scalar (anchor : Option Nat) (tag : Option Octets) (style : Style)
    (text : List Char) : d.text? (.scalar anchor tag style text) = some (String.ofList text) :=
  rfl

@[simp] theorem named?_scalar {α : Type} [Named α] (anchor : Option Nat) (style : Style) (a : α) :
    d.named? (.scalar anchor none style (Named.name a).toList) = some a := by
  simp [named?, resolve, localName?]

theorem unsigned?_scalar {text : List Char} {n bound : Nat} (read : readUnsigned text = some n)
    (small : n ≤ bound) (anchor : Option Nat) (tag : Option Octets) :
    d.unsigned? bound (.scalar anchor tag .plain text) = some n := by
  simp [unsigned?, resolve, read, small]

@[simp] theorem entries?_nil (anchor : Option Nat) : d.entries? (.mapping anchor []) = some [] :=
  rfl

@[simp] theorem entries?_cons (anchor : Option Nat) (k v : Node) (entries : List (Node × Node)) :
    d.entries? (.mapping anchor ((k, v) :: entries)) =
      (d.text? k).bind fun key =>
        (d.entries? (.mapping anchor entries)).map ((key, v) :: ·) := by
  simp only [entries?, resolve, List.mapM_cons]
  cases d.text? k with
  | none => rfl
  | some key => exact Option.map_eq_bind.symm

variable {d}

theorem fields?_eq {n : Node} {known : List String} {entries : List (String × Node)}
    (read : d.entries? n = some entries) (keys : entries.map (·.1) = known)
    (distinct : known.Nodup) : d.fields? known n = some entries := by
  have once : ∀ name ∈ known, entries.countP (·.1 == name) ≤ 1 := by
    intro name _
    have count : known.count name = entries.countP (·.1 == name) := by
      rw [← keys, List.count_eq_countP, List.countP_map]
      rfl
    exact count ▸ List.nodup_iff_count.1 distinct name
  have kept : ∀ name v, (name, v) ∈ entries → name ∈ known := by
    intro name v member
    rw [← keys]
    exact List.mem_map_of_mem member
  simpa [fields?, read] using ⟨once, kept⟩

end Document

end CheatCodes.Yaml
