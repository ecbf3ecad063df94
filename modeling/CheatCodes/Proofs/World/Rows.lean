import CheatCodes.Proofs.World.Building
import Mathlib.Data.List.Nodup
/-!
The rows of a map. Counted through one row after another, the points have just the places that
their nodes are stored at, so the nodes, their owners and the buildings of a player are all listed
in one order. Main statement: `points_exact`.
-/
namespace CheatCodes.World

def ownerRows (w : World) : List (List (Option PlayerId)) :=
  (List.range w.height.toNat).map fun y =>
    (List.range w.width.toNat).map fun x => w.owner? ⟨x.toUInt16, y.toUInt16⟩

/-! Places. -/

theorem range_rows (rows columns : Nat) :
    List.range (rows * columns) =
      (List.range rows).flatMap fun y => (List.range columns).map (y * columns + ·) := by
  induction rows with
  | zero =>
    rw [Nat.zero_mul]
    rfl
  | succ rows ih =>
    rw [Nat.succ_mul, List.range_add, ih, List.range_succ, List.flatMap_append,
      List.flatMap_singleton]

variable {w : World}

theorem index?_of_lt {x y : Nat} (column : x < w.width.toNat) (row : y < w.height.toNat) :
    w.index? ⟨x.toUInt16, y.toUInt16⟩ = some (y * w.width.toNat + x) := by
  have ex : x.toUInt16.toNat = x :=
    UInt16.toNat_ofNat_of_lt' (Nat.lt_trans column w.width.toNat_lt)
  have ey : y.toUInt16.toNat = y :=
    UInt16.toNat_ofNat_of_lt' (Nat.lt_trans row w.height.toNat_lt)
  rw [index?_eq_some, contains_iff, ex, ey]
  exact ⟨⟨column, row⟩, rfl⟩

theorem map_index?_points (w : World) :
    w.points.map w.index? = (List.range (w.width.toNat * w.height.toNat)).map some := by
  rw [Nat.mul_comm, range_rows, points, List.map_flatMap, List.map_flatMap]
  refine List.flatMap_congr fun y row => ?_
  rw [List.map_map, List.map_map]
  exact List.map_congr_left fun x column =>
    index?_of_lt (List.mem_range.1 column) (List.mem_range.1 row)

theorem length_points (w : World) : w.points.length = w.width.toNat * w.height.toNat := by
  have lengths := congrArg List.length w.map_index?_points
  rwa [List.length_map, List.length_map, List.length_range] at lengths

theorem index?_of_getElem? {k : Nat} {pt : Point} (listed : w.points[k]? = some pt) :
    w.index? pt = some k := by
  have small : k < w.width.toNat * w.height.toNat := by
    rw [← length_points]
    exact (List.getElem?_eq_some_iff.1 listed).1
  have entry := congrArg (·[k]?) w.map_index?_points
  rwa [List.getElem?_map, List.getElem?_map, listed, List.getElem?_range small, Option.map_some,
    Option.map_some, Option.some.injEq] at entry

theorem getElem?_points_iff {k : Nat} {pt : Point} :
    w.points[k]? = some pt ↔ w.index? pt = some k := by
  refine ⟨index?_of_getElem?, fun place => ?_⟩
  obtain ⟨j, listed⟩ := List.mem_iff_getElem?.1 (mem_points.2 (index?_eq_some.1 place).1)
  have same : j = k := Option.some.inj ((index?_of_getElem? listed).symm.trans place)
  rwa [same] at listed

theorem existsUnique_index?_iff {k : Nat} :
    (∃! pt, w.index? pt = some k) ↔ k < w.width.toNat * w.height.toNat := by
  constructor
  · rintro ⟨pt, place, _⟩
    exact index?_lt place
  · intro small
    rw [← length_points] at small
    have place : w.index? w.points[k] = some k :=
      index?_of_getElem? (List.getElem?_eq_getElem small)
    exact ⟨w.points[k], place, fun pt other => index?_injective other place⟩

/-! What is listed in this order. -/

theorem node?_of_index? {k : Nat} {pt : Point} (place : w.index? pt = some k) :
    w.node? pt = w.nodes[k]? := by
  rw [node?, place, Option.bind_some]

theorem map_node?_points (filled : w.nodes.size = w.width.toNat * w.height.toNat) :
    w.points.map w.node? = w.nodes.toList.map some := by
  have stored : (List.range w.nodes.size).map (w.nodes[·]?) = w.nodes.toList.map some := by
    refine List.ext_getElem (by simp) fun k small _ => ?_
    simp only [List.getElem_map, List.getElem_range, Array.getElem_toList]
    exact Array.getElem?_eq_getElem (by simpa using small)
  calc w.points.map w.node?
      = (w.points.map w.index?).map (·.bind fun k => w.nodes[k]?) := by
        rw [List.map_map]
        rfl
    _ = (List.range w.nodes.size).map (w.nodes[·]?) := by
        rw [map_index?_points, ← filled, List.map_map]
        rfl
    _ = w.nodes.toList.map some := stored

theorem flatten_ownerRows (w : World) : w.ownerRows.flatten = w.points.map w.owner? := by
  rw [ownerRows, points, List.map_flatMap, List.flatMap_def]
  congr 1
  refine List.map_congr_left fun y _ => ?_
  rw [List.map_map]
  rfl

theorem flatten_ownerRows_of_filled
    (filled : w.nodes.size = w.width.toNat * w.height.toNat) :
    w.ownerRows.flatten = w.nodes.toList.map (·.owner) := by
  have owners := congrArg (List.map (·.bind Node.owner)) (map_node?_points filled)
  rw [List.map_map, List.map_map] at owners
  rw [flatten_ownerRows]
  exact owners

def InOrder (w : World) (pt qt : Point) : Prop :=
  ∃ i j, w.index? pt = some i ∧ w.index? qt = some j ∧ i < j

theorem pairwise_inOrder (w : World) : w.points.Pairwise w.InOrder := by
  have places : (w.points.map w.index?).Pairwise fun a b =>
      ∃ i j, a = some i ∧ b = some j ∧ i < j := by
    rw [map_index?_points, List.pairwise_map]
    exact List.pairwise_lt_range.imp fun before => ⟨_, _, rfl, rfl, before⟩
  rwa [List.pairwise_map] at places

theorem node_of_buildingsOf_iff {p : PlayerId} {pt : Point} :
    pt ∈ w.buildingsOf p ↔
      ∃ n b, w.node? pt = some n ∧ n.object = .building b ∧ b.owner = p := by
  rw [mem_buildingsOf, hasBuilding_iff]
  constructor
  · rintro ⟨b, stands, owned⟩
    obtain ⟨n, found, built⟩ := Option.map_eq_some_iff.1 stands
    exact ⟨n, b, found, built, owned⟩
  · rintro ⟨n, b, found, built, owned⟩
    exact ⟨b, by rw [object?, found, Option.map_some, built], owned⟩

theorem disjoint_buildingsOf {p q : PlayerId} (apart : p ≠ q) :
    (w.buildingsOf p).Disjoint (w.buildingsOf q) := by
  intro pt here there
  obtain ⟨b, stands, rfl⟩ := hasBuilding_iff.1 (mem_buildingsOf.1 here)
  obtain ⟨b', stands', rfl⟩ := hasBuilding_iff.1 (mem_buildingsOf.1 there)
  rw [stands] at stands'
  cases stands'
  exact apart rfl

/-- Every point of a map is listed once, at the place where its node is stored, and every place has
its point. Owners are listed row by row in the same order, and so are the buildings of a player,
none of which is another player's. -/
theorem points_exact (w : World) :
    (∀ pt, w.points.count pt = if w.contains pt = true then 1 else 0) ∧
    w.points.length = w.width.toNat * w.height.toNat ∧
    (∀ k pt, w.points[k]? = some pt ↔ w.index? pt = some k) ∧
    (∀ k pt, w.index? pt = some k ↔
      w.contains pt = true ∧ pt.y.toNat * w.width.toNat + pt.x.toNat = k) ∧
    (∀ k, (∃! pt, w.index? pt = some k) ↔ k < w.width.toNat * w.height.toNat) ∧
    (∀ k pt, w.index? pt = some k →
      w.node? pt = w.nodes[k]? ∧ w.ownerRows.flatten[k]? = some (w.owner? pt)) ∧
    (w.nodes.size = w.width.toNat * w.height.toNat →
      w.points.map w.node? = w.nodes.toList.map some ∧
      w.ownerRows.flatten = w.nodes.toList.map (·.owner)) ∧
    (∀ p, (w.buildingsOf p).Sublist w.points ∧ (w.buildingsOf p).Pairwise w.InOrder ∧
      ∀ pt, pt ∈ w.buildingsOf p ↔ ∃ n b, w.node? pt = some n ∧ n.object = .building b ∧
        b.owner = p) ∧
    ∀ p q, p ≠ q → (w.buildingsOf p).Disjoint (w.buildingsOf q) := by
  refine ⟨fun pt => ?_, w.length_points, fun k pt => getElem?_points_iff,
    fun k pt => index?_eq_some, fun k => existsUnique_index?_iff,
    fun k pt place => ⟨node?_of_index? place, ?_⟩,
    fun filled => ⟨map_node?_points filled, flatten_ownerRows_of_filled filled⟩,
    fun p => ⟨List.filter_sublist, w.pairwise_inOrder.filter _, fun pt => node_of_buildingsOf_iff⟩,
    fun p q apart => disjoint_buildingsOf apart⟩
  · rw [w.nodup_points.count]
    simp only [mem_points]
  · rw [flatten_ownerRows, List.getElem?_map, getElem?_points_iff.2 place, Option.map_some]

theorem points_exact_camp :
    let alone := (World.empty 3 2).createBuilding ⟨0, 1⟩ ⟨.quarry, ⟨0⟩, .romans, false⟩
    let pair := alone.createBuilding ⟨2, 0⟩ ⟨.woodcutter, ⟨0⟩, .romans, false⟩
    let w := pair.createBuilding ⟨1, 0⟩ ⟨.storehouse, ⟨1⟩, .vikings, false⟩
    w.index? ⟨0, 1⟩ = some 3 ∧ w.node? ⟨0, 1⟩ = w.nodes[3]? ∧
      w.nodes.size = w.width.toNat * w.height.toNat ∧
      w.points.map w.node? = w.nodes.toList.map some ∧
      w.buildingsOf ⟨0⟩ = [⟨2, 0⟩, ⟨0, 1⟩] ∧ w.buildingsOf ⟨1⟩ = [⟨1, 0⟩] ∧
      (⟨0⟩ : PlayerId) ≠ ⟨1⟩ ∧ (w.buildingsOf ⟨0⟩).Disjoint (w.buildingsOf ⟨1⟩) := by
  intro alone pair w
  obtain ⟨_, _, _, _, _, stored, filled, _, apart⟩ := points_exact w
  exact ⟨by decide, (stored 3 ⟨0, 1⟩ (by decide)).1, by decide, (filled (by decide)).1, by decide,
    by decide, by decide, apart ⟨0⟩ ⟨1⟩ (by decide)⟩

end CheatCodes.World
