import CheatCodes.Command.Reference
import CheatCodes.Proofs.World.Territory
import CheatCodes.Proofs.World.WellFormed
/-!
The layout of the reference world. Players settle one after another, each claiming the square
around its site; a node belongs to the last of them whose square it lies in. Four columns of nine
nodes want a map of 36 columns. On smaller ones the squares of neighbours share a column, and who
settles first loses it.
-/
namespace CheatCodes

/-- The player holds the whole square of a first territory around its headquarters, eighty-one
nodes, and no other node. -/
def World.HoldsSquare (w : World) (p : PlayerId) : Prop :=
  ∃ hq, w.hq? p = some hq ∧ (∀ pt, w.owner? pt = some p ↔ w.InSquare hq hqRadius pt) ∧
    (w.landOf p).length = 81

namespace World

theorem addPlayer_of_fresh {w : World} {id : PlayerId} (fresh : id.index = w.players.size)
    (nation : Nation) (control : Control) :
    w.addPlayer nation control =
      (some id, { w with players := w.players.push ⟨id, nation, control, none⟩ }) := by
  simp [addPlayer, PlayerId.ofIndex?_eq_some.2 fresh]

theorem players_addPlayer_of_fresh {w : World} {id : PlayerId} (fresh : id.index = w.players.size)
    (nation : Nation) (control : Control) :
    (w.addPlayer nation control).2.players = w.players.push ⟨id, nation, control, none⟩ := by
  rw [addPlayer_of_fresh fresh]

theorem nation?_addPlayer_of_fresh {w : World} {id : PlayerId} (fresh : id.index = w.players.size)
    (nation : Nation) (control : Control) :
    (w.addPlayer nation control).2.nation? id = some nation := by
  rw [nation?, player?, players_addPlayer_of_fresh fresh, fresh, Array.getElem?_push_size]
  rfl

end World

namespace Reference
open World (hqRadius Reaches)

def Land (size : UInt16) (i : Nat) (pt : Point) : Prop :=
  Reaches size hqRadius (site size i).x pt.x ∧ Reaches size hqRadius (site size i).y pt.y

def seat (i : Nat) : PlayerId :=
  ⟨i.toUInt8⟩

theorem index_seat {i : Nat} (few : i < 8) : (seat i).index = i :=
  UInt8.toNat_ofNat_of_lt' (Nat.lt_trans few (by decide))

def joined (size : UInt16) (humans : Nat) (w : World) (n : Nat) : World :=
  (w.addPlayer (nation n) (if n < humans then .human else .ai)).2.foundHeadquarters (seat n)
    (site size n)

def settled (size : UInt16) (humans n : Nat) : World :=
  (List.range n).foldl (joined size humans) (.empty size size)

theorem settled_succ (size : UInt16) (humans n : Nat) :
    settled size humans (n + 1) = joined size humans (settled size humans n) n := by
  rw [settled, List.range_succ, List.foldl_append]
  rfl

def LastOf (holds : Nat → Prop) (n i : Nat) : Prop :=
  i < n ∧ holds i ∧ ∀ j, i < j → j < n → ¬ holds j

theorem lastOf_succ_of_holds {holds : Nat → Prop} {n : Nat} (last : holds n) (i : Nat) :
    LastOf holds (n + 1) i ↔ i = n := by
  constructor
  · rintro ⟨early, _, later⟩
    refine Decidable.byContradiction fun other => later n ?_ (Nat.lt_succ_self n) last
    omega
  · rintro rfl
    exact ⟨Nat.lt_succ_self i, last, fun j after early => by omega⟩

theorem lastOf_succ_of_not {holds : Nat → Prop} {n : Nat} (none : ¬ holds n) (i : Nat) :
    LastOf holds (n + 1) i ↔ LastOf holds n i := by
  constructor
  · rintro ⟨early, here, later⟩
    have other : i ≠ n := by
      rintro rfl
      exact none here
    exact ⟨by omega, here, fun j after before => later j after (by omega)⟩
  · rintro ⟨early, here, later⟩
    refine ⟨by omega, here, fun j after before => ?_⟩
    by_cases last : j = n
    · rwa [last]
    · exact later j after (by omega)

structure Settled (size : UInt16) (n : Nat) (w : World) : Prop where
  formed : w.WellFormed size size
  count : w.players.size = n
  slots : ∀ p : PlayerId, p.index < n → w.hq? p = some (site size p.index)
  owners : ∀ pt (p : PlayerId), w.owner? pt = some p ↔ LastOf (Land size · pt) n p.index

theorem settled_empty (size : UInt16) : Settled size 0 (.empty size size) where
  formed := World.wellFormed_empty size size
  count := rfl
  slots _ none := absurd none (Nat.not_lt_zero _)
  owners pt p := by simp [World.owner?_empty, LastOf]

/-! Where the sites lie. -/

theorem toNat_site_x {size : UInt16} (i : Nat) :
    (site size i).x.toNat = i % 4 * (size.toNat / 4) + size.toNat / 4 / 2 := by
  have column : i % 4 * (size.toNat / 4) ≤ 3 * (size.toNat / 4) :=
    Nat.mul_le_mul_right _ (by omega)
  exact UInt16.toNat_ofNat_of_lt' (Nat.lt_of_le_of_lt (by omega) size.toNat_lt)

theorem toNat_site_y {size : UInt16} {i : Nat} (few : i < 8) :
    (site size i).y.toNat = i / 4 * (2 * (size.toNat / 4)) + size.toNat / 4 / 2 := by
  have row : i / 4 * (2 * (size.toNat / 4)) ≤ 1 * (2 * (size.toNat / 4)) :=
    Nat.mul_le_mul_right _ (by omega)
  rw [← Nat.mul_assoc]
  rw [← Nat.mul_assoc] at row
  exact UInt16.toNat_ofNat_of_lt' (Nat.lt_of_le_of_lt (by omega) size.toNat_lt)

theorem site_inside {size : UInt16} {i : Nat} (few : i < 8) (wide : 32 ≤ size.toNat) :
    (site size i).x.toNat < size.toNat ∧ (site size i).y.toNat < size.toNat := by
  have column : i % 4 * (size.toNat / 4) ≤ 3 * (size.toNat / 4) :=
    Nat.mul_le_mul_right _ (by omega)
  have row : i / 4 * (2 * (size.toNat / 4)) ≤ 1 * (2 * (size.toNat / 4)) :=
    Nat.mul_le_mul_right _ (by omega)
  rw [toNat_site_x, toNat_site_y few]
  omega

/-! One more player. -/

theorem Settled.settle_eq_ok {size : UInt16} {n : Nat} {w : World} (h : Settled size n w)
    (few : n < 8) (humans : Nat) : settle size humans w n = .ok (joined size humans w n) := by
  have fresh : (seat n).index = w.players.size := (index_seat few).trans h.count.symm
  rw [settle, joined, World.addPlayer_of_fresh fresh]

theorem Settled.joined {size : UInt16} {n : Nat} {w : World} (h : Settled size n w)
    (few : n < 8) (wide : 32 ≤ size.toNat) (humans : Nat) :
    Settled size (n + 1) (joined size humans w n) := by
  have place : (seat n).index = n := index_seat few
  have fresh : (seat n).index = w.players.size := place.trans h.count.symm
  rw [Reference.joined]
  generalize seat n = id at place fresh ⊢
  generalize (if n < humans then Control.human else Control.ai) = control
  generalize joined : (w.addPlayer (nation n) control).2 = u
  have formed : u.WellFormed size size := joined ▸ h.formed.addPlayer (nation n) control
  have players : u.players = w.players.push ⟨id, nation n, control, none⟩ :=
    joined ▸ World.players_addPlayer_of_fresh fresh (nation n) control
  have known : u.nation? id = some (nation n) :=
    joined ▸ World.nation?_addPlayer_of_fresh fresh (nation n) control
  have inside : u.contains (site size n) = true := World.contains_iff.2 (by
    rw [formed.width_eq, formed.height_eq]
    exact site_inside few wide)
  refine ⟨formed.change (.foundHeadquarters id (site size n)), ?_, fun p early => ?_,
    fun pt p => ?_⟩
  · rw [World.players_size_congr (World.roster_foundHeadquarters ..), players, Array.size_push,
      h.count]
  · rw [World.hq?_foundHeadquarters known inside, ← joined, World.hq?_addPlayer]
    by_cases own : p = id
    · have empty : w.hq? p = none := by
        rw [World.hq?, World.player?, own, fresh, Array.getElem?_eq_none (Nat.le_refl _)]
        rfl
      rw [if_pos own, empty, own, place]
      rfl
    · have other : p.index ≠ n := fun same => own (PlayerId.ext_index (same.trans place.symm))
      rw [if_neg own]
      exact h.slots p (by omega)
  · have land : u.InSquare (site size n) hqRadius pt ↔ Land size n pt := by
      rw [World.InSquare, formed.width_eq, formed.height_eq, Land]
    rw [World.owner?_foundHeadquarters formed known]
    by_cases here : Land size n pt
    · rw [if_pos (land.2 here), lastOf_succ_of_holds here, ← place]
      exact ⟨fun same => by rw [Option.some.inj same],
        fun same => congrArg some (PlayerId.ext_index same.symm)⟩
    · rw [if_neg (mt land.1 here), lastOf_succ_of_not here, ← joined, World.owner?,
        World.node?_addPlayer]
      exact h.owners pt p

theorem settled_settled {size : UInt16} {n : Nat} (few : n ≤ 8) (wide : 32 ≤ size.toNat)
    (humans : Nat) : Settled size n (settled size humans n) := by
  induction n with
  | zero => exact settled_empty size
  | succ n ih =>
    rw [settled_succ]
    exact (ih (by omega)).joined few wide humans

theorem foldlM_settle {size : UInt16} {n : Nat} (few : n ≤ 8) (wide : 32 ≤ size.toNat)
    (humans : Nat) :
    (List.range n).foldlM (settle size humans) (.empty size size) =
      .ok (settled size humans n) := by
  induction n with
  | zero => rfl
  | succ n ih =>
    have next := (settled_settled (by omega : n ≤ 8) wide humans).settle_eq_ok few humans
    rw [List.range_succ, List.foldlM_append, ih (by omega), settled_succ, ← next]
    exact bind_pure (settle size humans (settled size humans n) n)

theorem world_eq_settled {size : UInt16} {humans ai : UInt8}
    (some : 1 ≤ humans.toNat + ai.toNat) (few : humans.toNat + ai.toNat ≤ 8)
    (wide : 32 ≤ size.toNat) :
    world size humans ai =
      .ok (settled size humans.toNat (humans.toNat + ai.toNat)).drainEvents.2 := by
  have roomy : ¬ size < 32 := UInt16.not_lt.2 (UInt16.le_iff_toNat_le.2 wide)
  rw [world, if_neg (by omega), if_neg roomy, foldlM_settle few wide]
  rfl

/-- A layout is refused for its players or for its map, and never for the want of a slot. -/
theorem world_cases (size : UInt16) (humans ai : UInt8) :
    let total := humans.toNat + ai.toNat
    ((total = 0 ∨ 8 < total) ∧ world size humans ai = .error (.playerCount total)) ∨
    ((1 ≤ total ∧ total ≤ 8) ∧ size.toNat < 32 ∧
      world size humans ai = .error (.mapSize size)) ∨
    ((1 ≤ total ∧ total ≤ 8) ∧ 32 ≤ size.toNat ∧
      world size humans ai = .ok (settled size humans.toNat total).drainEvents.2) := by
  intro total
  by_cases many : total = 0 ∨ 8 < total
  · exact .inl ⟨many, if_pos many⟩
  have few : 1 ≤ total ∧ total ≤ 8 := by omega
  by_cases narrow : size < 32
  · refine .inr (.inl ⟨few, UInt16.lt_iff_toNat_lt.1 narrow, ?_⟩)
    rw [world, if_neg many, if_pos narrow]
  · have wide : 32 ≤ size.toNat := UInt16.le_iff_toNat_le.1 (UInt16.not_lt.1 narrow)
    exact .inr (.inr ⟨few, wide, world_eq_settled few.1 few.2 wide⟩)

theorem world_eq_ok {size : UInt16} {humans ai : UInt8} {w : World}
    (made : world size humans ai = .ok w) :
    1 ≤ humans.toNat + ai.toNat ∧ humans.toNat + ai.toNat ≤ 8 ∧ 32 ≤ size.toNat ∧
      w = (settled size humans.toNat (humans.toNat + ai.toNat)).drainEvents.2 := by
  rcases world_cases size humans ai with ⟨_, refused⟩ | ⟨_, _, refused⟩ | ⟨⟨some, few⟩, wide, made'⟩
  · rw [refused] at made
    cases made
  · rw [refused] at made
    cases made
  · rw [made'] at made
    exact ⟨some, few, wide, (Except.ok.inj made).symm⟩

theorem settled_world {size : UInt16} {humans ai : UInt8} {w : World}
    (made : world size humans ai = .ok w) : Settled size (humans.toNat + ai.toNat) w := by
  obtain ⟨_, few, wide, rfl⟩ := world_eq_ok made
  have h := settled_settled few wide humans.toNat
  exact ⟨h.formed.congr rfl rfl rfl rfl, h.count, h.slots, h.owners⟩

/-! Where the squares meet. -/

theorem lanes_apart {lanes stride reach size i j : Nat} (wide : reach < stride)
    (fits : lanes * stride ≤ size) (before : i < j) (last : j < lanes) :
    i * stride + reach < j * stride ∧ j * stride + reach < i * stride + size := by
  have next : (i + 1) * stride ≤ j * stride := Nat.mul_le_mul_right _ before
  have all : (j + 1) * stride ≤ lanes * stride := Nat.mul_le_mul_right _ last
  rw [Nat.succ_mul] at next all
  omega

theorem lane_eq (lanes : Nat) {size a b c : UInt16} {stride start i j : Nat}
    (ha : a.toNat = i * stride + start) (hb : b.toNat = j * stride + start) (hi : i < lanes)
    (hj : j < lanes) (wide : 8 < stride) (fits : lanes * stride ≤ size.toNat)
    (fromA : Reaches size hqRadius a c) (fromB : Reaches size hqRadius b c) : i = j := by
  have eight : 2 * hqRadius.toNat = 8 := rfl
  rcases Nat.lt_trichotomy i j with before | same | after
  · have := lanes_apart wide fits before hj
    exact absurd fromB (World.not_reaches_of_apart (by omega) (by omega) fromA)
  · exact same
  · have := lanes_apart wide fits after hi
    exact absurd fromA (World.not_reaches_of_apart (by omega) (by omega) fromB)

theorem land_unique {size : UInt16} (wide : 36 ≤ size.toNat) {i j : Nat} (hi : i < 8) (hj : j < 8)
    {pt : Point} (first : Land size i pt) (second : Land size j pt) : i = j := by
  have column : i % 4 = j % 4 :=
    lane_eq 4 (toNat_site_x i) (toNat_site_x j) (by omega) (by omega) (by omega)
      (by omega) first.1 second.1
  have row : i / 4 = j / 4 :=
    lane_eq 2 (toNat_site_y hi) (toNat_site_y hj) (by omega) (by omega) (by omega)
      (by omega) first.2 second.2
  omega

theorem land_shared {size : UInt16} (wide : 32 ≤ size.toNat) (narrow : size.toNat < 36) :
    Land size 0 ⟨8, 4⟩ ∧ Land size 1 ⟨8, 4⟩ := by
  have four : size.toNat / 4 = 8 := by omega
  have column (i : Nat) : (site size i).x.toNat = i % 4 * 8 + 4 := by rw [toNat_site_x, four]
  have row {i : Nat} (few : i < 8) : (site size i).y.toNat = i / 4 * 16 + 4 := by
    rw [toNat_site_y few, four]
  have x : (⟨8, 4⟩ : Point).x.toNat = 8 := rfl
  have y : (⟨8, 4⟩ : Point).y.toNat = 4 := rfl
  have radius : hqRadius.toNat = 4 := rfl
  have land (i : Nat) (first : i < 2) : Land size i ⟨8, 4⟩ := by
    have columnAt := column i
    have rowAt := row (Nat.lt_of_lt_of_le first (by decide))
    exact ⟨World.reaches_of_near (by omega) (by omega) (by omega),
      World.reaches_of_near (by omega) (by omega) (by omega)⟩
  exact ⟨land 0 (by omega), land 1 (by omega)⟩

theorem Settled.holdsSquare_iff {size : UInt16} {n : Nat} {w : World} (h : Settled size n w)
    (wide : 32 ≤ size.toNat) {p : PlayerId} (early : p.index < n) :
    w.HoldsSquare p ↔
      ∀ pt, Land size p.index pt → ∀ j, p.index < j → j < n → ¬ Land size j pt := by
  have square (pt : Point) : w.InSquare (site size p.index) hqRadius pt ↔ Land size p.index pt := by
    rw [World.InSquare, h.formed.width_eq, h.formed.height_eq, Land]
  constructor
  · rintro ⟨hq, slot, owned, _⟩ pt here
    rw [h.slots p early] at slot
    cases slot
    exact ((h.owners pt p).1 ((owned pt).2 ((square pt).2 here))).2.2
  · intro last
    have owned (pt : Point) :
        w.owner? pt = some p ↔ w.InSquare (site size p.index) hqRadius pt := by
      rw [h.owners, square]
      exact ⟨fun all => all.2.1, fun here => ⟨early, here, last pt here⟩⟩
    refine ⟨site size p.index, h.slots p early, owned, ?_⟩
    have side : min (2 * hqRadius.toNat + 1) size.toNat = 9 := Nat.min_eq_left (by
      change 9 ≤ size.toNat
      omega)
    rw [World.length_landOf owned, h.formed.width_eq, h.formed.height_eq, side]

/-- In a reference world every player holds the whole square around its headquarters, and nothing
else, exactly if it is alone or the map has room for four squares next to each other. -/
theorem territories_apart_iff {size : UInt16} {humans ai : UInt8} {w : World}
    (made : world size humans ai = .ok w) :
    (∀ p : PlayerId, p.index < w.players.size → w.HoldsSquare p) ↔
      humans.toNat + ai.toNat = 1 ∨ 36 ≤ size.toNat := by
  obtain ⟨some, few, wide, _⟩ := world_eq_ok made
  have h := settled_world made
  rw [h.count]
  constructor
  · intro hold
    refine Decidable.byContradiction fun crowded => ?_
    obtain ⟨first, second⟩ := land_shared wide (by omega)
    obtain ⟨p, zero⟩ : ∃ p : PlayerId, p.index = 0 := ⟨⟨0⟩, rfl⟩
    have early : p.index < humans.toNat + ai.toNat := by omega
    refine (h.holdsSquare_iff wide early).1 (hold p early) ⟨8, 4⟩ ?_ 1 (by omega) (by omega) second
    rwa [zero]
  · intro room p early
    rw [h.holdsSquare_iff wide early]
    intro pt here j later last there
    rcases room with alone | roomy
    · omega
    · have := land_unique roomy (by omega) (by omega) here there
      omega

theorem territories_apart_36 :
    ∃ w, world 36 4 4 = .ok w ∧ ∀ p : PlayerId, p.index < w.players.size → w.HoldsSquare p := by
  have made : world 36 4 4 = .ok (settled 36 4 8).drainEvents.2 :=
    world_eq_settled (by decide) (by decide) (by decide)
  exact ⟨_, made, (territories_apart_iff made).2 (.inr (by decide))⟩

/-- On the smallest map that is accepted the second player takes a node of the first one's
square. -/
theorem territories_collide_32 :
    ∃ w, world 32 1 1 = .ok w ∧ w.hq? ⟨0⟩ = some ⟨4, 4⟩ ∧ w.InSquare ⟨4, 4⟩ hqRadius ⟨8, 4⟩ ∧
      w.owner? ⟨8, 4⟩ = some ⟨1⟩ ∧ ¬ w.HoldsSquare ⟨0⟩ := by
  have made : world 32 1 1 = .ok (settled 32 1 2).drainEvents.2 :=
    world_eq_settled (by decide) (by decide) (by decide)
  have h := settled_world made
  obtain ⟨first, second⟩ : Land 32 0 ⟨8, 4⟩ ∧ Land 32 1 ⟨8, 4⟩ :=
    land_shared (by decide) (by decide)
  have slot := h.slots ⟨0⟩ (by decide)
  refine ⟨_, made, slot, ?_, ?_, fun holds => ?_⟩
  · rw [World.InSquare, h.formed.width_eq, h.formed.height_eq]
    exact first
  · exact (h.owners _ ⟨1⟩).2 ⟨by decide, second, fun j later last => by
      have : j < 2 := last
      have : 1 < j := later
      omega⟩
  · exact (h.holdsSquare_iff (by decide) (by decide)).1 holds ⟨8, 4⟩ first 1 (by decide) (by decide)
      second

end Reference

end CheatCodes
