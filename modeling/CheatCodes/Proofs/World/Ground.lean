import CheatCodes.Proofs.World.Building
import CheatCodes.Summary
/-!
The ground under the buildings: the size of the map and its nodes apart from what stands on them.
Building and clearing leave it alone, and the players as well, so all that is read from these two
stays: whether a single human plays, where a cheat headquarters may go and which deposits show.
Clearing also leaves every object that is no building.
-/
namespace CheatCodes

structure Plot where
  owner : Option PlayerId
  quality : Quality
  resource : Resource
  deriving DecidableEq, Repr

def Node.plot (n : Node) : Plot :=
  ⟨n.owner, n.quality, n.resource⟩

structure Ground where
  width : UInt16
  height : UInt16
  plots : Array Plot
  deriving DecidableEq, Repr

namespace World

def ground (w : World) : Ground :=
  ⟨w.width, w.height, w.nodes.map (·.plot)⟩

theorem ground_setObject (w : World) (pt : Point) (object : NodeObject) :
    (w.setObject pt object).ground = w.ground := by
  have plots : (w.setObject pt object).nodes.map (·.plot) = w.nodes.map (·.plot) := by
    unfold setObject editNode
    split
    · apply Array.ext
      · simp
      · intro i _ _
        simp only [Array.getElem_map, Array.getElem_modify]
        split <;> rfl
    · rfl
  have width : (w.setObject pt object).width = w.width := editNode_width ..
  have height : (w.setObject pt object).height = w.height := editNode_height ..
  rw [ground, ground, plots, width, height]

theorem ground_destroyObject (w : World) (pt : Point) :
    (w.destroyObject pt).ground = w.ground := by
  unfold destroyObject
  split
  · rfl
  · rfl
  · exact ground_setObject w pt .nothing
  · exact ground_setObject w pt .nothing

theorem ground_createBuilding (w : World) (pt : Point) (b : Building) :
    (w.createBuilding pt b).ground = w.ground := by
  unfold createBuilding
  split
  · split
    · exact ground_setObject w pt (.building b)
    · exact ground_setObject w pt (.building b)
  · rfl

theorem ground_replace (w : World) (pt : Point) (b : Building) :
    (w.replace pt b).ground = w.ground := by
  rw [replace, ground_createBuilding, ground_destroyObject]

theorem ground_destroyBuildingsOf (w : World) (p : PlayerId) :
    (w.destroyBuildingsOf p).2.ground = w.ground :=
  destroyBuildingsOf_keeps ground_destroyObject w p

/-! What is read from the ground. -/

theorem points_congr {w w' : World} (same : w'.ground = w.ground) : w'.points = w.points := by
  have width : w'.width = w.width := congrArg Ground.width same
  have height : w'.height = w.height := congrArg Ground.height same
  rw [points, points, width, height]

theorem plot?_congr {w w' : World} (same : w'.ground = w.ground) (pt : Point) :
    (w'.node? pt).map (·.plot) = (w.node? pt).map (·.plot) := by
  have width : w'.width = w.width := congrArg Ground.width same
  have height : w'.height = w.height := congrArg Ground.height same
  have plots : w'.nodes.map (·.plot) = w.nodes.map (·.plot) := congrArg Ground.plots same
  have inside : w'.contains pt = w.contains pt := by rw [contains, contains, width, height]
  have index : w'.index? pt = w.index? pt := by rw [index?, index?, inside, width]
  rw [node?, node?, index]
  cases w.index? pt with
  | none => rfl
  | some i =>
    have entry := congrArg (·[i]?) plots
    simpa only [Array.getElem?_map, Option.bind_some] using entry

theorem owner?_congr {w w' : World} (same : w'.ground = w.ground) (pt : Point) :
    w'.owner? pt = w.owner? pt := by
  have read (u : World) : u.owner? pt = ((u.node? pt).map (·.plot)).bind (·.owner) := by
    cases h : u.node? pt <;> simp [owner?, h, Node.plot]
  rw [read, read, plot?_congr same]

theorem quality_congr {w w' : World} (same : w'.ground = w.ground) (pt : Point) :
    w'.quality pt = w.quality pt := by
  have read (u : World) :
      u.quality pt = (((u.node? pt).map (·.plot)).map (·.quality)).getD .nothing := by
    cases h : u.node? pt <;> simp [quality, h, Node.plot]
  rw [read, read, plot?_congr same]

theorem neighbours_congr {w w' : World} (same : w'.ground = w.ground) (pt : Point) :
    w'.neighbours pt = w.neighbours pt := by
  have width : w'.width = w.width := congrArg Ground.width same
  have height : w'.height = w.height := congrArg Ground.height same
  simp only [neighbours, offset, width, height]

theorem isSinglePlayer_eq (w : World) :
    w.isSinglePlayer = (w.roster.toList.countP (·.2.2 = .human) == 1) := by
  simp [isSinglePlayer, roster, List.countP_map, Function.comp_def]

theorem isSinglePlayer_congr {w w' : World} (same : w'.roster = w.roster) :
    w'.isSinglePlayer = w.isSinglePlayer := by
  rw [isSinglePlayer_eq, isSinglePlayer_eq, same]

end World

theorem Cheats.check_congr {w w' : World} (same : w'.ground = w.ground) (c : Cheats) (pt : Point) :
    c.check w' pt = c.check w pt := by
  simp only [check, World.owner?_congr same, World.neighbours_congr same, World.quality_congr same]

theorem Game.revealed_congr {w w' : World} (same : w'.ground = w.ground) (c : Cheats)
    (client client' : Client) :
    Game.revealed ⟨c, w', client'⟩ = Game.revealed ⟨c, w, client⟩ := by
  have read (u : World) (client : Client) : Game.revealed ⟨c, u, client⟩ =
      u.points.filterMap fun pt => ((u.node? pt).map (·.plot)).bind fun plot =>
        if 0 < plot.resource.amount ∧ c.reveals plot.resource.kind then
          some ⟨pt, plot.resource⟩ else none := by
    unfold revealed
    congr 1
    funext pt
    cases u.node? pt <;> rfl
  rw [read, read, World.points_congr same]
  congr 1
  funext pt
  rw [World.plot?_congr same]

namespace World

/-! What clearing leaves of the objects. -/

/-- Between the two worlds only buildings were lost. -/
def Razed (w w' : World) : Prop :=
  ∀ pt, w'.object? pt = w.object? pt ∨
    (∃ b, w.object? pt = some (.building b)) ∧ w'.object? pt = some .nothing

theorem Razed.refl (w : World) : Razed w w :=
  fun _ => .inl rfl

theorem Razed.trans {w₁ w₂ w₃ : World} (first : Razed w₁ w₂) (second : Razed w₂ w₃) :
    Razed w₁ w₃ := by
  intro pt
  rcases second pt with same | ⟨⟨b, stands⟩, emptied⟩
  · rw [same]
    exact first pt
  · rcases first pt with same | ⟨_, gone⟩
    · rw [same] at stands
      exact .inr ⟨⟨b, stands⟩, emptied⟩
    · rw [gone] at stands
      cases stands

theorem razed_destroyBuildingsOf (w : World) (p : PlayerId) :
    Razed w (w.destroyBuildingsOf p).2 := by
  intro pt
  rw [object?_destroyBuildingsOf]
  by_cases own : w.hasBuilding p pt = true
  · obtain ⟨b, stands, _⟩ := hasBuilding_iff.1 own
    exact .inr ⟨⟨b, stands⟩, if_pos own⟩
  · exact .inl (if_neg own)

theorem object?_replace {w : World} {pt : Point} (node : (w.object? pt).isSome) (b : Building)
    (qt : Point) :
    (w.replace pt b).object? qt = if qt = pt then some (.building b) else w.object? qt := by
  rw [replace, object?_createBuilding, object?_destroyObject, object?_destroyObject]
  by_cases here : qt = pt
  · obtain ⟨object, found⟩ := Option.isSome_iff_exists.1 node
    simp [here, found]
  · simp [here]

end World

end CheatCodes
