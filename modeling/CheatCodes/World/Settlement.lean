import CheatCodes.World.Basic
/-!
Territory and buildings: the changes that are recorded. A player's headquarters slot is filled by
the first headquarters built into it and cleared when that one is destroyed.
-/
namespace CheatCodes.World

def distances (r : Nat) : List Int :=
  (List.range (2 * r + 1)).map fun (i : Nat) => (i : Int) - (r : Int)

theorem mem_distances {r : Nat} {d : Int} : d ∈ distances r ↔ -(r : Int) ≤ d ∧ d ≤ r := by
  simp only [distances, List.mem_map, List.mem_range]
  constructor
  · rintro ⟨i, hi, rfl⟩
    omega
  · intro h
    exact ⟨(d + r).toNat, by omega, by omega⟩

/-- The nodes at most `radius` rows and columns away, as often as the edges wrap onto them. -/
def square (w : World) (center : Point) (radius : UInt16) : List Point :=
  (distances radius.toNat).flatMap fun dy =>
    (distances radius.toNat).map fun dx => w.offset center dx dy

def claimTerritory (w : World) (center : Point) (radius : UInt16) (owner : PlayerId) : World :=
  ((w.square center radius).foldl (fun w pt => w.setOwner pt (some owner)) w).record
    (.territoryClaimed center radius owner)

def destroyObject (w : World) (pt : Point) : World :=
  match w.object? pt with
  | none | some .nothing => w
  | some .environment => (w.setObject pt .nothing).record (.objectCleared pt)
  | some (.building b) =>
    ((w.setObject pt .nothing).editPlayer b.owner (·.loseHq pt)).record
      (.buildingDestroyed pt b.kind b.owner)

/-- Puts a building on a node, whatever stood there; outside the map nothing happens. -/
def createBuilding (w : World) (pt : Point) (b : Building) : World :=
  if w.contains pt then
    let built := w.setObject pt (.building b)
    let held := if b.kind = .headquarters then built.editPlayer b.owner (·.gainHq pt) else built
    held.record (.buildingCreated pt b.kind b.owner)
  else w

def hqRadius : UInt16 := 4

def foundHeadquarters (w : World) (p : PlayerId) (pt : Point) : World :=
  match w.nation? p with
  | none => w
  | some nation =>
    (w.claimTerritory pt hqRadius p).createBuilding pt ⟨.headquarters, p, nation, false⟩

/-- Answers how many buildings are destroyed. -/
def destroyBuildingsOf (w : World) (p : PlayerId) : Nat × World :=
  let buildings := w.buildingsOf p
  (buildings.length, buildings.foldl destroyObject w)

def notifyVisibility (w : World) : World :=
  w.record .visibilityChanged

end CheatCodes.World
