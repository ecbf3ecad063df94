import CheatCodes.Terrain
/-!
Player slots, their nations and who controls them, and sets of players. A set is an ascending list
of slots, so two sets with the same players are equal.
-/
namespace CheatCodes

structure PlayerId where
  slot : UInt8
  deriving DecidableEq, Repr, Inhabited

namespace PlayerId

def index (p : PlayerId) : Nat :=
  p.slot.toNat

def text (p : PlayerId) : String :=
  s!"player {p.slot}"

instance : LT PlayerId := ⟨fun p q => p.slot < q.slot⟩
instance (p q : PlayerId) : Decidable (p < q) := inferInstanceAs (Decidable (p.slot < q.slot))

theorem lt_iff {p q : PlayerId} : p < q ↔ p.index < q.index :=
  UInt8.lt_iff_toNat_lt

theorem ext_index {p q : PlayerId} (h : p.index = q.index) : p = q := by
  cases p; cases q; simp only [mk.injEq]; exact UInt8.toNat_inj.1 h

def ofIndex? (i : Nat) : Option PlayerId :=
  if i < 256 then some ⟨i.toUInt8⟩ else none

theorem index_lt (p : PlayerId) : p.index < 256 :=
  p.slot.toNat_lt

theorem ofIndex?_eq_some {i : Nat} {p : PlayerId} : ofIndex? i = some p ↔ p.index = i := by
  have read (small : i < 256) : (⟨i.toUInt8⟩ : PlayerId).index = i :=
    UInt8.toNat_ofNat_of_lt' small
  have bound := p.index_lt
  constructor
  · intro found
    unfold ofIndex? at found
    split at found
    · rename_i small
      rw [← Option.some.inj found]
      exact read small
    · cases found
  · rintro rfl
    rw [ofIndex?, if_pos bound]
    exact congrArg some (ext_index (read bound))

theorem exists_index {i : Nat} (small : i < 256) : ∃ p : PlayerId, p.index = i :=
  ⟨⟨i.toUInt8⟩, ofIndex?_eq_some.1 (if_pos small)⟩

end PlayerId

inductive Nation where
  | africans
  | japanese
  | romans
  | vikings
  | babylonians
  deriving DecidableEq, Repr, Inhabited

instance : Named Nation where
  members := [.africans, .japanese, .romans, .vikings, .babylonians]
  name
    | .africans => "Africans"
    | .japanese => "Japanese"
    | .romans => "Romans"
    | .vikings => "Vikings"
    | .babylonians => "Babylonians"
  find_name a := by cases a <;> rfl

inductive Control where
  | free
  | human
  | locked
  | ai
  deriving DecidableEq, Repr, Inhabited

instance : Named Control where
  members := [.free, .human, .locked, .ai]
  name
    | .free => "Free"
    | .human => "Human"
    | .locked => "Locked"
    | .ai => "Ai"
  find_name a := by cases a <;> rfl

/-- A slot's holder; `hq` is where the headquarters stands. -/
structure Player where
  id : PlayerId
  nation : Nation
  control : Control
  hq : Option Point
  deriving DecidableEq, Repr, Inhabited

/-- A first headquarters fills the slot, a later one leaves it. -/
def Player.gainHq (p : Player) (pt : Point) : Player :=
  { p with hq := some (p.hq.getD pt) }

/-- The slot is cleared when it points at `pt`. -/
def Player.loseHq (p : Player) (pt : Point) : Player :=
  if p.hq = some pt then { p with hq := none } else p

/-- A set of players, by ascending slot. -/
structure PlayerSet where
  ids : List PlayerId
  ascending : ids.Pairwise (· < ·)
  deriving Repr

namespace PlayerSet

instance : DecidableEq PlayerSet := fun a b =>
  decidable_of_iff (a.ids = b.ids) (by cases a; cases b; simp)

instance : Membership PlayerId PlayerSet := ⟨fun s p => p ∈ s.ids⟩

instance (p : PlayerId) (s : PlayerSet) : Decidable (p ∈ s) :=
  inferInstanceAs (Decidable (p ∈ s.ids))

def empty : PlayerSet := ⟨[], .nil⟩

def singleton (p : PlayerId) : PlayerSet := ⟨[p], List.pairwise_singleton _ p⟩

def place (p : PlayerId) : List PlayerId → List PlayerId
  | [] => [p]
  | q :: qs => if p < q then p :: q :: qs else if q < p then q :: place p qs else q :: qs

theorem mem_place {p q : PlayerId} {qs : List PlayerId} : q ∈ place p qs ↔ q = p ∨ q ∈ qs := by
  induction qs with
  | nil => simp [place]
  | cons r rs ih =>
    by_cases before : p < r
    · simp [place, before]
    by_cases after : r < p
    · simp only [place, before, after, if_true, if_false, List.mem_cons, ih]
      constructor <;> (intro h; rcases h with h | h | h <;> simp [h])
    · have same : p = r := PlayerId.ext_index (by
        rw [PlayerId.lt_iff] at before after; omega)
      subst same
      simp [place, before]

theorem pairwise_place {p : PlayerId} {qs : List PlayerId} (h : qs.Pairwise (· < ·)) :
    (place p qs).Pairwise (· < ·) := by
  induction qs with
  | nil => simp [place]
  | cons r rs ih =>
    obtain ⟨least, rest⟩ := List.pairwise_cons.1 h
    by_cases before : p < r
    · simp only [place, before, if_true, List.pairwise_cons, List.mem_cons]
      refine ⟨fun a ha => ?_, least, rest⟩
      rcases ha with rfl | ha
      · exact before
      · have := least a ha
        rw [PlayerId.lt_iff] at *
        omega
    by_cases after : r < p
    · simp only [place, before, after, if_true, if_false, List.pairwise_cons]
      refine ⟨fun a ha => ?_, ih rest⟩
      rcases mem_place.1 ha with rfl | ha
      · exact after
      · exact least a ha
    · simpa [place, before, after] using h

def insert (p : PlayerId) (s : PlayerSet) : PlayerSet :=
  ⟨place p s.ids, pairwise_place s.ascending⟩

def ofList (ps : List PlayerId) : PlayerSet :=
  ps.foldr insert empty

@[simp] theorem mem_insert {p q : PlayerId} {s : PlayerSet} : q ∈ s.insert p ↔ q = p ∨ q ∈ s :=
  mem_place

@[simp] theorem mem_ofList {q : PlayerId} {ps : List PlayerId} : q ∈ ofList ps ↔ q ∈ ps := by
  induction ps with
  | nil => simp [ofList, empty, Membership.mem]
  | cons p ps ih =>
    rw [ofList, List.foldr_cons, mem_insert, List.mem_cons]
    exact or_congr_right ih

@[simp] theorem ofList_ids (s : PlayerSet) : ofList s.ids = s := by
  obtain ⟨ids, ascending⟩ := s
  induction ids with
  | nil => rfl
  | cons p ps ih =>
    obtain ⟨least, rest⟩ := List.pairwise_cons.1 ascending
    have first : place p ps = p :: ps := by
      cases ps with
      | nil => rfl
      | cons q qs => simp [place, least q List.mem_cons_self]
    have more : ofList (p :: ps) = (ofList ps).insert p := rfl
    rw [more, ih rest]
    simp [insert, first]

end PlayerSet

end CheatCodes
