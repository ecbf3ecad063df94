import CheatCodes.Proofs.World.Territory
import Mathlib.Data.Int.ModEq
/-!
What a claim does, in full. It gives away the nodes that are congruent along both axes to a place of
the square, wherever the center is, and apart from the record it changes nothing else. Worked out in
signed words of 32 bits, where an operation has no result if it overflows, it is the same claim.
-/
namespace CheatCodes

/-! Signed words of 32 bits. -/

namespace Signed

def ofInt? (n : Int) : Option Int32 :=
  if -2 ^ 31 ≤ n ∧ n < 2 ^ 31 then some (.ofInt n) else none

def widen (n : UInt16) : Int32 :=
  .ofInt n.toNat

def neg? (a : Int32) : Option Int32 :=
  ofInt? (-a.toInt)

def add? (a b : Int32) : Option Int32 :=
  ofInt? (a.toInt + b.toInt)

/-- The remainder by a positive word, which is never negative. -/
def mod? (a b : Int32) : Option Int32 :=
  if 0 < b.toInt then ofInt? (a.toInt % b.toInt) else none

/-- The lower half of a word, if it is all there is. -/
def narrow? (a : Int32) : Option UInt16 :=
  if 0 ≤ a.toInt ∧ a.toInt < 2 ^ 16 then some a.toInt.toNat.toUInt16 else none

def upTo? (first last : Int32) : Option (List Int32) :=
  (List.range (last.toInt - first.toInt + 1).toNat).mapM fun (i : Nat) =>
    ofInt? (first.toInt + i)

theorem ofInt?_eq_some {n : Int} (low : -2 ^ 31 ≤ n) (high : n < 2 ^ 31) :
    ofInt? n = some (.ofInt n) :=
  if_pos ⟨low, high⟩

theorem toInt_widen (n : UInt16) : (widen n).toInt = n.toNat := by
  have := n.toNat_lt
  exact Int32.toInt_ofInt_of_le (by omega) (by omega)

theorem mapM_eq_some_map {α β : Type} {f : α → Option β} {g : α → β} {l : List α}
    (h : ∀ a ∈ l, f a = some (g a)) : l.mapM f = some (l.map g) := by
  induction l with
  | nil => rfl
  | cons a l ih =>
    rw [List.forall_mem_cons] at h
    simp [List.mapM_cons, h.1, ih h.2]

theorem upTo?_eq_some (r : UInt16) :
    upTo? (.ofInt (-r.toNat)) (widen r) =
      some ((World.distances r.toNat).map Int32.ofInt) := by
  have top := r.toNat_lt
  have first : (Int32.ofInt (-r.toNat)).toInt = -r.toNat :=
    Int32.toInt_ofInt_of_le (by omega) (by omega)
  have count : ((r.toNat : Int) - -r.toNat + 1).toNat = 2 * r.toNat + 1 := by omega
  rw [upTo?, first, toInt_widen, count, World.distances, List.map_map]
  refine mapM_eq_some_map fun i member => ?_
  rw [List.mem_range] at member
  have next : -(r.toNat : Int) + i = i - r.toNat := by omega
  rw [ofInt?_eq_some (by omega) (by omega), next]
  rfl

theorem foldlM_eq_some_foldl {α σ : Type} {P : σ → Prop} {f : σ → α → Option σ} {g : σ → α → σ}
    {l : List α} (h : ∀ s, P s → ∀ a ∈ l, f s a = some (g s a) ∧ P (g s a)) {s : σ} (begun : P s) :
    l.foldlM f s = some (l.foldl g s) ∧ P (l.foldl g s) := by
  induction l generalizing s with
  | nil => exact ⟨rfl, begun⟩
  | cons a l ih =>
    obtain ⟨step, kept⟩ := h s begun a List.mem_cons_self
    have rest := ih (fun s holds b member => h s holds b (List.mem_cons_of_mem a member)) kept
    rw [List.foldlM_cons, step, List.foldl_cons]
    exact rest

end Signed

namespace World
open Signed

def wrap? (size coordinate : UInt16) (d : Int32) : Option UInt16 := do
  let place ← add? (widen coordinate) d
  let rest ← mod? place (widen (max size 1))
  narrow? rest

def offset? (w : World) (pt : Point) (dx dy : Int32) : Option Point := do
  let x ← wrap? w.width pt.x dx
  let y ← wrap? w.height pt.y dy
  return ⟨x, y⟩

theorem toNat_max_one (size : UInt16) : (max size 1).toNat = max size.toNat 1 := by
  change (if size ≤ 1 then 1 else size).toNat = max size.toNat 1
  split
  · rename_i low
    exact (Nat.max_eq_right (UInt16.le_iff_toNat_le.1 low)).symm
  · rename_i high
    rw [UInt16.le_iff_toNat_le] at high
    exact (Nat.max_eq_left (Nat.le_of_not_le high)).symm

theorem wrap?_eq_some (size a : UInt16) {radius : UInt16} {d : Int}
    (near : d ∈ distances radius.toNat) : wrap? size a (.ofInt d) = some (wrap size a d) := by
  obtain ⟨low, high⟩ := mem_distances.1 near
  have aTop := a.toNat_lt
  have sizeTop := size.toNat_lt
  have radiusTop := radius.toNat_lt
  have word : (Int32.ofInt d).toInt = d := Int32.toInt_ofInt_of_le (by omega) (by omega)
  have restLow := Int.emod_nonneg ((a.toNat : Int) + d) (b := (max size.toNat 1 : Nat)) (by omega)
  have restHigh := Int.emod_lt_of_pos ((a.toNat : Int) + d) (b := (max size.toNat 1 : Nat))
    (by omega)
  have place : add? (widen a) (.ofInt d) = some (.ofInt (a.toNat + d)) := by
    rw [add?, toInt_widen, word, ofInt?_eq_some (by omega) (by omega)]
  have rest : mod? (.ofInt (a.toNat + d)) (widen (max size 1)) =
      some (.ofInt ((a.toNat + d) % (max size.toNat 1 : Nat))) := by
    rw [mod?, toInt_widen, toNat_max_one, if_pos (by omega),
      Int32.toInt_ofInt_of_le (by omega) (by omega), ofInt?_eq_some (by omega) (by omega)]
  have cut : narrow? (.ofInt ((a.toNat + d) % (max size.toNat 1 : Nat))) =
      some (wrap size a d) := by
    rw [narrow?, Int32.toInt_ofInt_of_le (by omega) (by omega), if_pos (by omega), wrap]
  simp only [wrap?, place, rest, cut, Option.bind_eq_bind, Option.bind_some]

theorem offset?_eq_some (w : World) (pt : Point) {radius : UInt16} {dx dy : Int}
    (horizontal : dx ∈ distances radius.toNat) (vertical : dy ∈ distances radius.toNat) :
    w.offset? pt (.ofInt dx) (.ofInt dy) = some (w.offset pt dx dy) := by
  simp only [offset?, wrap?_eq_some _ _ horizontal, wrap?_eq_some _ _ vertical,
    Option.bind_eq_bind, Option.bind_some, Option.pure_def, offset]

def reach? (radius : UInt16) : Option (List Int32) := do
  let first ← neg? (widen radius)
  upTo? first (widen radius)

def claimNode? (w : World) (center : Point) (owner : PlayerId) (dx dy : Int32) : Option World := do
  let pt ← w.offset? center dx dy
  return w.setOwner pt (some owner)

def claimRow? (w : World) (center : Point) (radius : UInt16) (owner : PlayerId) (dy : Int32) :
    Option World := do
  let columns ← reach? radius
  columns.foldlM (fun w dx => w.claimNode? center owner dx dy) w

/-- Gives the square around a point to a player, node by node, in signed words. -/
def claimTerritory? (w : World) (center : Point) (radius : UInt16) (owner : PlayerId) :
    Option World := do
  let rows ← reach? radius
  let claimed ← rows.foldlM (fun w dy => w.claimRow? center radius owner dy) w
  return claimed.record (.territoryClaimed center radius owner)

theorem reach?_eq_some (radius : UInt16) :
    reach? radius = some ((distances radius.toNat).map Int32.ofInt) := by
  have top := radius.toNat_lt
  have first : neg? (widen radius) = some (.ofInt (-radius.toNat)) := by
    rw [neg?, toInt_widen, ofInt?_eq_some (by omega) (by omega)]
  rw [reach?, first]
  exact upTo?_eq_some radius

def SameSize (w w' : World) : Prop :=
  w'.width = w.width ∧ w'.height = w.height

theorem claimNode?_eq_some {w w' : World} (same : w.SameSize w') (center : Point)
    {radius : UInt16} (owner : PlayerId) {dx dy : Int} (horizontal : dx ∈ distances radius.toNat)
    (vertical : dy ∈ distances radius.toNat) :
    w'.claimNode? center owner (.ofInt dx) (.ofInt dy) =
        some (w'.setOwner (w.offset center dx dy) (some owner)) ∧
      w.SameSize (w'.setOwner (w.offset center dx dy) (some owner)) := by
  have place : w'.offset center dx dy = w.offset center dx dy := by
    rw [offset, offset, same.1, same.2]
  constructor
  · rw [claimNode?, offset?_eq_some w' center horizontal vertical, place]
    rfl
  · exact ⟨(editNode_width ..).trans same.1, (editNode_height ..).trans same.2⟩

theorem claimRow?_eq_some {w w' : World} (same : w.SameSize w') (center : Point) {radius : UInt16}
    (owner : PlayerId) {dy : Int} (vertical : dy ∈ distances radius.toNat) :
    let claimed := ((distances radius.toNat).map fun dx => w.offset center dx dy).foldl
      (fun w pt => w.setOwner pt (some owner)) w'
    w'.claimRow? center radius owner (.ofInt dy) = some claimed ∧ w.SameSize claimed := by
  intro claimed
  rw [claimRow?, reach?_eq_some]
  simp only [claimed, List.foldl_map, Option.bind_eq_bind, Option.bind_some, List.foldlM_map]
  exact foldlM_eq_some_foldl (P := w.SameSize) (fun _ holds dx horizontal =>
    claimNode?_eq_some holds center owner horizontal vertical) same

theorem claimTerritory?_eq_some (w : World) (center : Point) (radius : UInt16) (owner : PlayerId) :
    w.claimTerritory? center radius owner = some (w.claimTerritory center radius owner) := by
  have rows := (foldlM_eq_some_foldl (P := w.SameSize) (l := distances radius.toNat)
    (f := fun w' dy => w'.claimRow? center radius owner (.ofInt dy)) (fun w' holds dy vertical =>
      claimRow?_eq_some holds center owner vertical) ⟨rfl, rfl⟩).1
  rw [claimTerritory?, reach?_eq_some]
  simp only [Option.bind_eq_bind, Option.bind_some, List.foldlM_map, rows, claimTerritory, square,
    List.foldl_flatMap]
  rfl

/-! The nodes of the square and the rest of the world. -/

theorem reaches_iff_modEq {size radius a b : UInt16} (inside : b < size) :
    Reaches size radius a b ↔ ∃ d : Int, (-(radius.toNat : Int) ≤ d ∧ d ≤ radius.toNat) ∧
      (b.toNat : Int) ≡ a.toNat + d [ZMOD size.toNat] := by
  have small : b.toNat < size.toNat := UInt16.lt_iff_toNat_lt.1 inside
  have own : (b.toNat : Int) % size.toNat = b.toNat := Int.emod_eq_of_lt (by omega) (by omega)
  constructor
  · rintro ⟨_, d, low, high, reached⟩
    exact ⟨d, ⟨low, high⟩, own.trans reached.symm⟩
  · rintro ⟨d, ⟨low, high⟩, congruent⟩
    exact ⟨inside, d, low, high, congruent.eq.symm.trans own⟩

theorem inSquare_iff_modEq {w : World} {center pt : Point} {radius : UInt16} :
    w.InSquare center radius pt ↔ w.contains pt = true ∧ ∃ dx dy : Int,
      (-(radius.toNat : Int) ≤ dx ∧ dx ≤ radius.toNat) ∧
      (-(radius.toNat : Int) ≤ dy ∧ dy ≤ radius.toNat) ∧
      (pt.x.toNat : Int) ≡ center.x.toNat + dx [ZMOD w.width.toNat] ∧
      (pt.y.toNat : Int) ≡ center.y.toNat + dy [ZMOD w.height.toNat] := by
  constructor
  · intro h
    obtain ⟨dx, horizontal, column⟩ := (reaches_iff_modEq h.1.1).1 h.1
    obtain ⟨dy, vertical, row⟩ := (reaches_iff_modEq h.2.1).1 h.2
    exact ⟨h.contains, dx, dy, horizontal, vertical, column, row⟩
  · rintro ⟨inside, dx, dy, horizontal, vertical, column, row⟩
    obtain ⟨west, south⟩ := contains_iff.1 inside
    exact ⟨(reaches_iff_modEq (UInt16.lt_iff_toNat_lt.2 west)).2 ⟨dx, horizontal, column⟩,
      (reaches_iff_modEq (UInt16.lt_iff_toNat_lt.2 south)).2 ⟨dy, vertical, row⟩⟩

theorem claimTerritory_eq (w : World) (center : Point) (radius : UInt16) (owner : PlayerId) :
    w.claimTerritory center radius owner =
      { w with nodes := (w.claimTerritory center radius owner).nodes
               events := w.events.push (.territoryClaimed center radius owner) } := by
  obtain ⟨width, height, players, events⟩ := claimed_frame (w.square center radius) owner w
  simp only [claimTerritory, record, width, height, players, events]

theorem nodes_size_claimed (pts : List Point) (owner : PlayerId) (w : World) :
    (pts.foldl (fun w pt => w.setOwner pt (some owner)) w).nodes.size = w.nodes.size := by
  induction pts generalizing w with
  | nil => rfl
  | cons pt pts ih => exact (ih (w.setOwner pt (some owner))).trans (editNode_nodes_size ..)

/-- A claim gives just the nodes of its square to the owner, as many as the square has on the map,
and leaves them and the world as they were apart from the owner and one more event. -/
theorem claimTerritory_exact (w : World) (center : Point) (radius : UInt16) (owner : PlayerId) :
    let claimed := w.claimTerritory center radius owner
    (∀ pt, w.InSquare center radius pt ↔ w.contains pt = true ∧ ∃ dx dy : Int,
      (-(radius.toNat : Int) ≤ dx ∧ dx ≤ radius.toNat) ∧
      (-(radius.toNat : Int) ≤ dy ∧ dy ≤ radius.toNat) ∧
      (pt.x.toNat : Int) ≡ center.x.toNat + dx [ZMOD w.width.toNat] ∧
      (pt.y.toNat : Int) ≡ center.y.toNat + dy [ZMOD w.height.toNat]) ∧
    (∀ pt, claimed.node? pt =
      if w.InSquare center radius pt then (w.node? pt).map ({ · with owner := some owner })
      else w.node? pt) ∧
    (w.nodes.size = w.width.toNat * w.height.toNat →
      ∀ pt, w.InSquare center radius pt → claimed.owner? pt = some owner) ∧
    (w.points.filter fun pt => w.InSquare center radius pt).length =
      min (2 * radius.toNat + 1) w.width.toNat * min (2 * radius.toNat + 1) w.height.toNat ∧
    claimed = { w with nodes := claimed.nodes
                       events := w.events.push (.territoryClaimed center radius owner) } ∧
    claimed.nodes.size = w.nodes.size ∧
    w.claimTerritory? center radius owner = some claimed := by
  intro claimed
  refine ⟨fun _ => inSquare_iff_modEq, w.node?_claimTerritory center radius owner,
    fun filled pt inside => ?_, ?_, w.claimTerritory_eq center radius owner,
    nodes_size_claimed (w.square center radius) owner w,
    w.claimTerritory?_eq_some center radius owner⟩
  · rw [owner?_claimTerritory filled, if_pos inside]
  · rw [← List.countP_eq_length_filter]
    exact w.countP_square center radius

theorem claimTerritory_exact_beside :
    let w := empty 5 2
    let claimed := w.claimTerritory ⟨9, 7⟩ 1 ⟨0⟩
    w.nodes.size = w.width.toNat * w.height.toNat ∧ claimed.owner? ⟨0, 0⟩ = some ⟨0⟩ ∧
    claimed.owner? ⟨1, 0⟩ = none ∧
    (w.points.filter fun pt => w.InSquare ⟨9, 7⟩ 1 pt).length = 3 * 2 ∧
    claimed.events = #[.territoryClaimed ⟨9, 7⟩ 1 ⟨0⟩] := by
  intro w claimed
  obtain ⟨_, nodes, given, count, frame, _⟩ := claimTerritory_exact w ⟨9, 7⟩ 1 ⟨0⟩
  refine ⟨by decide, given (by decide) ⟨0, 0⟩ (by decide), ?_, count, congrArg (·.events) frame⟩
  rw [owner?, nodes]
  decide

end World

end CheatCodes
