import CheatCodes.World.Basic
/-!
What the changes of a world do to its nodes and players as they are asked for: an edit shows at its
own point or slot and nowhere else, because different points have different places in the rows.
-/
namespace CheatCodes

def Point.Before (pt qt : Point) : Prop :=
  pt.y < qt.y ∨ pt.y = qt.y ∧ pt.x < qt.x

namespace World

theorem contains_iff {w : World} {pt : Point} :
    w.contains pt = true ↔ pt.x.toNat < w.width.toNat ∧ pt.y.toNat < w.height.toNat := by
  simp [contains, UInt16.lt_iff_toNat_lt]

theorem index?_eq_some {w : World} {pt : Point} {i : Nat} :
    w.index? pt = some i ↔ w.contains pt = true ∧ pt.y.toNat * w.width.toNat + pt.x.toNat = i := by
  unfold index?
  split <;> simp_all

theorem index?_isSome {w : World} {pt : Point} : (w.index? pt).isSome = w.contains pt := by
  unfold index?
  split <;> simp_all

theorem index?_lt {w : World} {pt : Point} {i : Nat} (h : w.index? pt = some i) :
    i < w.width.toNat * w.height.toNat := by
  obtain ⟨inside, rfl⟩ := index?_eq_some.1 h
  obtain ⟨hx, hy⟩ := contains_iff.1 inside
  calc pt.y.toNat * w.width.toNat + pt.x.toNat
      < pt.y.toNat * w.width.toNat + w.width.toNat := by omega
    _ = (pt.y.toNat + 1) * w.width.toNat := by rw [Nat.succ_mul]
    _ ≤ w.height.toNat * w.width.toNat := Nat.mul_le_mul_right _ hy
    _ = w.width.toNat * w.height.toNat := Nat.mul_comm _ _

theorem index?_injective {w : World} {p q : Point} {i : Nat} (hp : w.index? p = some i)
    (hq : w.index? q = some i) : p = q := by
  obtain ⟨pin, hpi⟩ := index?_eq_some.1 hp
  obtain ⟨qin, hqi⟩ := index?_eq_some.1 hq
  have px := (contains_iff.1 pin).1
  have qx := (contains_iff.1 qin).1
  have positive : 0 < w.width.toNat := by omega
  have column (pt : Point) (inside : pt.x.toNat < w.width.toNat) :
      (pt.y.toNat * w.width.toNat + pt.x.toNat) % w.width.toNat = pt.x.toNat := by
    rw [Nat.mul_comm, Nat.mul_add_mod, Nat.mod_eq_of_lt inside]
  have row (pt : Point) (inside : pt.x.toNat < w.width.toNat) :
      (pt.y.toNat * w.width.toNat + pt.x.toNat) / w.width.toNat = pt.y.toNat := by
    rw [Nat.mul_comm, Nat.mul_add_div positive, Nat.div_eq_of_lt inside, Nat.add_zero]
  have hx : p.x.toNat = q.x.toNat := by rw [← column p px, ← column q qx, hpi, hqi]
  have hy : p.y.toNat = q.y.toNat := by rw [← row p px, ← row q qx, hpi, hqi]
  cases p
  cases q
  simp only [Point.mk.injEq]
  exact ⟨UInt16.toNat_inj.1 hx, UInt16.toNat_inj.1 hy⟩

@[simp] theorem index?_editNode (w : World) (pt qt : Point) (f : Node → Node) :
    (w.editNode pt f).index? qt = w.index? qt := by
  unfold editNode
  split <;> rfl

theorem node?_editNode (w : World) (pt qt : Point) (f : Node → Node) :
    (w.editNode pt f).node? qt = if qt = pt then (w.node? pt).map f else w.node? qt := by
  unfold node?
  rw [index?_editNode]
  cases hq : w.index? qt with
  | none =>
    by_cases same : qt = pt
    · subst same
      simp [hq]
    · simp [same]
  | some j =>
    cases hp : w.index? pt with
    | none =>
      have same : qt ≠ pt := by
        rintro rfl
        simp [hq] at hp
      simp [editNode, hp, same]
    | some i =>
      by_cases same : qt = pt
      · subst same
        have : j = i := by simpa [hq] using hp
        subst this
        simp [editNode, hp, Array.getElem?_modify]
      · have apart : i ≠ j := by
          rintro rfl
          exact same (index?_injective hq hp)
        simp [editNode, hp, same, Array.getElem?_modify, apart]

@[simp] theorem player?_editNode (w : World) (pt : Point) (f : Node → Node) (p : PlayerId) :
    (w.editNode pt f).player? p = w.player? p := by
  simp [player?]

theorem player?_editPlayer (w : World) (p q : PlayerId) (f : Player → Player) :
    (w.editPlayer p f).player? q = if q = p then (w.player? p).map f else w.player? q := by
  unfold player? editPlayer
  rw [Array.getElem?_modify]
  by_cases same : q = p
  · subst same
    simp
  · have apart : p.index ≠ q.index := fun h => same (PlayerId.ext_index h.symm)
    simp [same, apart]

@[simp] theorem node?_editPlayer (w : World) (p : PlayerId) (f : Player → Player) (pt : Point) :
    (w.editPlayer p f).node? pt = w.node? pt := rfl

@[simp] theorem node?_record (w : World) (e : Event) (pt : Point) :
    (w.record e).node? pt = w.node? pt := rfl

@[simp] theorem player?_record (w : World) (e : Event) (p : PlayerId) :
    (w.record e).player? p = w.player? p := rfl

theorem contains_of_node? {w : World} {pt : Point} {n : Node} (h : w.node? pt = some n) :
    w.contains pt = true := by
  rw [← index?_isSome]
  cases found : w.index? pt with
  | none => simp [node?, found] at h
  | some i => rfl

theorem contains_of_object? {w : World} {pt : Point} {object : NodeObject}
    (h : w.object? pt = some object) : w.contains pt = true := by
  obtain ⟨_, found, _⟩ := Option.map_eq_some_iff.1 h
  exact contains_of_node? found

theorem mem_points {w : World} {pt : Point} : pt ∈ w.points ↔ w.contains pt = true := by
  have small (n : UInt16) : n.toNat.toUInt16 = n := UInt16.ofNat_toNat
  simp only [points, List.mem_flatMap, List.mem_map, List.mem_range, contains_iff]
  constructor
  · rintro ⟨y, row, x, column, rfl⟩
    have ex : x.toUInt16.toNat = x :=
      UInt16.toNat_ofNat_of_lt' (Nat.lt_trans column w.width.toNat_lt)
    have ey : y.toUInt16.toNat = y :=
      UInt16.toNat_ofNat_of_lt' (Nat.lt_trans row w.height.toNat_lt)
    exact ⟨by rwa [ex], by rwa [ey]⟩
  · rintro ⟨column, row⟩
    exact ⟨pt.y.toNat, row, pt.x.toNat, column, by rw [small, small]⟩

theorem pairwise_points (w : World) : w.points.Pairwise Point.Before := by
  have ordered {size : UInt16} {m n : Nat} (small : n < size.toNat) (h : m < n) :
      m.toUInt16 < n.toUInt16 := by
    have top := size.toNat_lt
    rw [UInt16.lt_iff_toNat_lt, UInt16.toNat_ofNat_of_lt' (by omega : m < 2 ^ 16),
      UInt16.toNat_ofNat_of_lt' (by omega : n < 2 ^ 16)]
    exact h
  rw [points, List.pairwise_flatMap]
  constructor
  · intro y _
    rw [List.pairwise_map]
    apply List.pairwise_lt_range.imp_of_mem
    intro m n _ column before
    exact .inr ⟨rfl, ordered (List.mem_range.1 column) before⟩
  · apply List.pairwise_lt_range.imp_of_mem
    intro m n _ row before pt here qt there
    obtain ⟨_, _, rfl⟩ := List.mem_map.1 here
    obtain ⟨_, _, rfl⟩ := List.mem_map.1 there
    exact .inl (ordered (List.mem_range.1 row) before)

theorem nodup_points (w : World) : w.points.Nodup := by
  refine w.pairwise_points.imp fun {pt qt} before same => ?_
  rw [Point.Before, same] at before
  simp at before

/-! Objects and headquarters slots under the edits. -/

@[simp] theorem object?_editPlayer (w : World) (p : PlayerId) (f : Player → Player) (pt : Point) :
    (w.editPlayer p f).object? pt = w.object? pt := rfl

@[simp] theorem object?_record (w : World) (e : Event) (pt : Point) :
    (w.record e).object? pt = w.object? pt := rfl

theorem object?_setObject (w : World) (pt qt : Point) (object : NodeObject) :
    (w.setObject pt object).object? qt =
      if qt = pt then (w.object? pt).map fun _ => object else w.object? qt := by
  rw [object?, setObject, node?_editNode]
  split
  · simp only [object?, Option.map_map]
    rfl
  · rfl

@[simp] theorem hq?_setObject (w : World) (pt : Point) (object : NodeObject) (p : PlayerId) :
    (w.setObject pt object).hq? p = w.hq? p := by
  simp [hq?, setObject]

@[simp] theorem hq?_record (w : World) (e : Event) (p : PlayerId) :
    (w.record e).hq? p = w.hq? p := rfl

theorem hq?_loseHq (w : World) (p q : PlayerId) (pt : Point) :
    (w.editPlayer p (·.loseHq pt)).hq? q =
      if q = p ∧ w.hq? q = some pt then none else w.hq? q := by
  rw [hq?, player?_editPlayer]
  by_cases same : q = p
  · subst same
    cases found : w.player? q with
    | none => simp [hq?, found]
    | some player =>
      by_cases here : player.hq = some pt
      · simp [hq?, found, Player.loseHq, here]
      · simp [hq?, found, Player.loseHq, here]
  · simp [same, hq?]

theorem hq?_gainHq (w : World) (p q : PlayerId) (pt : Point) :
    (w.editPlayer p (·.gainHq pt)).hq? q =
      if q = p ∧ (w.player? q).isSome then some ((w.hq? q).getD pt) else w.hq? q := by
  rw [hq?, player?_editPlayer]
  by_cases same : q = p
  · subst same
    cases found : w.player? q with
    | none => simp [hq?, found]
    | some player => simp [hq?, found, Player.gainHq]
  · simp [same, hq?]

/-! A world before anything is built. -/

@[simp] theorem node?_addPlayer (w : World) (nation : Nation) (control : Control) (pt : Point) :
    (w.addPlayer nation control).2.node? pt = w.node? pt := by
  unfold addPlayer
  split <;> rfl

@[simp] theorem object?_addPlayer (w : World) (nation : Nation) (control : Control) (pt : Point) :
    (w.addPlayer nation control).2.object? pt = w.object? pt := by
  rw [object?, node?_addPlayer, object?]

@[simp] theorem hq?_addPlayer (w : World) (nation : Nation) (control : Control) (p : PlayerId) :
    (w.addPlayer nation control).2.hq? p = w.hq? p := by
  unfold addPlayer
  split
  · simp only [hq?, player?, Array.getElem?_push]
    split
    · rename_i new
      rw [Array.getElem?_eq_none (Nat.le_of_eq new.symm)]
      rfl
    · rfl
  · rfl

theorem hq?_empty (width height : UInt16) (p : PlayerId) : (empty width height).hq? p = none := by
  simp [hq?, player?, empty]

theorem eq_open_of_node?_empty {width height : UInt16} {pt : Point} {n : Node}
    (h : (empty width height).node? pt = some n) : n = .open := by
  obtain ⟨i, _, found⟩ := Option.bind_eq_some_iff.1 h
  simp only [empty, Array.getElem?_replicate] at found
  split at found
  · exact (Option.some.inj found).symm
  · cases found

theorem owner?_empty (width height : UInt16) (pt : Point) :
    (empty width height).owner? pt = none := by
  cases found : (empty width height).node? pt with
  | none => simp [owner?, found]
  | some n =>
    rw [owner?, found, eq_open_of_node?_empty found]
    rfl

theorem object?_empty_ne_building (width height : UInt16) (pt : Point) (b : Building) :
    (empty width height).object? pt ≠ some (.building b) := by
  intro h
  obtain ⟨n, found, built⟩ := Option.map_eq_some_iff.1 h
  rw [eq_open_of_node?_empty found] at built
  cases built

end World

end CheatCodes
