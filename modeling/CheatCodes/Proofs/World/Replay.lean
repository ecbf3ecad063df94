import CheatCodes.Proofs.World.Square
/-!
The recorded events as a history of the world. A chart holds what the events speak of: who owns a
node, what stands on it and where the headquarters slots point. Replaying the events that a run of
changes records, on the chart of the world before it, draws the chart of the world after it.
-/
namespace CheatCodes

/-- What stands on a node, a building by its kind and owner alone. -/
inductive Standing where
  | nothing
  | environment
  | building (kind : BuildingKind) (owner : PlayerId)
  deriving DecidableEq, Repr

def NodeObject.standing : NodeObject → Standing
  | .nothing => .nothing
  | .environment => .environment
  | .building b => .building b.kind b.owner

structure Site where
  owner : Option PlayerId
  standing : Standing
  deriving DecidableEq, Repr

def Node.site (n : Node) : Site :=
  ⟨n.owner, n.object.standing⟩

structure Chart where
  width : UInt16
  height : UInt16
  site? : Point → Option Site
  slots : Array (Option Point)

def World.chart (w : World) : Chart :=
  ⟨w.width, w.height, fun pt => (w.node? pt).map (·.site), w.players.map (·.hq)⟩

namespace Chart

def edit (c : Chart) (holds : Point → Bool) (f : Site → Site) : Chart :=
  { c with site? := fun pt => if holds pt then (c.site? pt).map f else c.site? pt }

def editSlot (c : Chart) (p : PlayerId) (f : Option Point → Option Point) : Chart :=
  { c with slots := c.slots.modify p.index f }

def squareHas (c : Chart) (center : Point) (radius : UInt16) (pt : Point) : Bool :=
  World.Reaches c.width radius center.x pt.x ∧ World.Reaches c.height radius center.y pt.y

def replay (c : Chart) : Event → Chart
  | .territoryClaimed center radius owner =>
    c.edit (c.squareHas center radius) ({ · with owner := some owner })
  | .buildingCreated pt kind owner =>
    let built := c.edit (· = pt) ({ · with standing := .building kind owner })
    if kind = .headquarters then built.editSlot owner fun hq => some (hq.getD pt) else built
  | .buildingDestroyed pt _ owner =>
    (c.edit (· = pt) ({ · with standing := .nothing })).editSlot owner fun hq =>
      if hq = some pt then none else hq
  | .objectCleared pt => c.edit (· = pt) ({ · with standing := .nothing })
  | .visibilityChanged => c

end Chart

namespace World

inductive Change where
  | claimTerritory (center : Point) (radius : UInt16) (owner : PlayerId)
  | foundHeadquarters (p : PlayerId) (pt : Point)
  | createBuilding (pt : Point) (b : Building)
  | destroyObject (pt : Point)
  | destroyBuildingsOf (p : PlayerId)
  | notifyVisibility
  deriving DecidableEq, Repr

def change (w : World) : Change → World
  | .claimTerritory center radius owner => w.claimTerritory center radius owner
  | .foundHeadquarters p pt => w.foundHeadquarters p pt
  | .createBuilding pt b => w.createBuilding pt b
  | .destroyObject pt => w.destroyObject pt
  | .destroyBuildingsOf p => (w.destroyBuildingsOf p).2
  | .notifyVisibility => w.notifyVisibility

def changeAll (w : World) (changes : List Change) : World :=
  changes.foldl change w

/-! How the chart follows the edits of nodes and players. -/

theorem chart_editNode {w : World} {pt : Point} {f : Node → Node} {g : Site → Site}
    (h : ∀ n, (f n).site = g n.site) : (w.editNode pt f).chart = w.chart.edit (· = pt) g := by
  have sites (qt : Point) : ((w.editNode pt f).node? qt).map (·.site) =
      if qt = pt then ((w.node? qt).map (·.site)).map g else (w.node? qt).map (·.site) := by
    rw [node?_editNode]
    by_cases same : qt = pt
    · subst same
      simp only [if_true, Option.map_map]
      congr 1
      funext n
      exact h n
    · simp only [same, if_false]
  simp [chart, Chart.edit, sites]

theorem chart_editPlayer {w : World} {p : PlayerId} {f : Player → Player}
    {g : Option Point → Option Point} (h : ∀ q, (f q).hq = g q.hq) :
    (w.editPlayer p f).chart = w.chart.editSlot p g := by
  have slots : (w.players.modify p.index f).map (·.hq) =
      (w.players.map (·.hq)).modify p.index g := by
    refine Array.ext (by simp) fun i _ _ => ?_
    simp only [Array.getElem_map, Array.getElem_modify]
    split
    · exact h _
    · rfl
  rw [chart, Chart.editSlot, editPlayer, slots]
  rfl

theorem node?_claimed (pts : List Point) (owner : PlayerId) (w : World) (qt : Point) :
    (pts.foldl (fun w pt => w.setOwner pt (some owner)) w).node? qt =
      if qt ∈ pts then (w.node? qt).map ({ · with owner := some owner }) else w.node? qt := by
  induction pts generalizing w with
  | nil => simp
  | cons pt pts ih =>
    rw [List.foldl_cons, ih, setOwner, node?_editNode]
    by_cases here : qt = pt
    · subst here
      by_cases again : qt ∈ pts
      · simp only [again, List.mem_cons_self, if_true, Option.map_map]
        rfl
      · simp [again]
    · simp [here]

theorem claimed_frame (pts : List Point) (owner : PlayerId) (w : World) :
    let claimed := pts.foldl (fun w pt => w.setOwner pt (some owner)) w
    claimed.width = w.width ∧ claimed.height = w.height ∧ claimed.players = w.players ∧
    claimed.events = w.events := by
  induction pts generalizing w with
  | nil => exact ⟨rfl, rfl, rfl, rfl⟩
  | cons pt pts ih => simpa [setOwner] using ih (w.setOwner pt (some owner))

theorem node?_outside {w : World} {pt : Point} (outside : ¬ w.contains pt = true) :
    w.node? pt = none := by
  simp [node?, index?, outside]

theorem chart_claimed (w : World) (center : Point) (radius : UInt16) (owner : PlayerId) :
    ((w.square center radius).foldl (fun w pt => w.setOwner pt (some owner)) w).chart =
      w.chart.replay (.territoryClaimed center radius owner) := by
  obtain ⟨width, height, players, _⟩ := claimed_frame (w.square center radius) owner w
  have sites (qt : Point) :
      (((w.square center radius).foldl (fun w pt => w.setOwner pt (some owner)) w).node? qt).map
        (·.site) =
      if w.chart.squareHas center radius qt = true then
        ((w.node? qt).map (·.site)).map ({ · with owner := some owner })
      else (w.node? qt).map (·.site) := by
    rw [node?_claimed]
    by_cases inside : w.contains qt = true
    · have member : w.chart.squareHas center radius qt = true ↔ qt ∈ w.square center radius := by
        rw [mem_square_iff inside]
        exact decide_eq_true_iff
      by_cases here : qt ∈ w.square center radius
      · rw [if_pos here, if_pos (member.2 here), Option.map_map, Option.map_map]
        rfl
      · rw [if_neg here, if_neg (mt member.1 here)]
    · simp [node?_outside inside]
  simp only [Chart.replay, Chart.edit, chart, width, height, players, sites]

theorem chart_loseHq (w : World) (p : PlayerId) (pt : Point) :
    (w.editPlayer p (·.loseHq pt)).chart =
      w.chart.editSlot p fun hq => if hq = some pt then none else hq :=
  chart_editPlayer fun q => by
    unfold Player.loseHq
    split
    · rfl
    · rfl

theorem chart_gainHq (w : World) (p : PlayerId) (pt : Point) :
    (w.editPlayer p (·.gainHq pt)).chart = w.chart.editSlot p fun hq => some (hq.getD pt) :=
  chart_editPlayer fun _ => rfl

/-- The events recorded between two worlds tell all that their charts differ in. -/
def Recorded (w w' : World) : Prop :=
  ∃ added : List Event, w'.events.toList = w.events.toList ++ added ∧
    w'.chart = added.foldl Chart.replay w.chart

theorem Recorded.refl (w : World) : Recorded w w :=
  ⟨[], by simp, rfl⟩

theorem Recorded.trans {w₁ w₂ w₃ : World} (first : Recorded w₁ w₂) (second : Recorded w₂ w₃) :
    Recorded w₁ w₃ := by
  obtain ⟨added, grown, drawn⟩ := first
  obtain ⟨more, grown', drawn'⟩ := second
  refine ⟨added ++ more, by rw [grown', grown, List.append_assoc], ?_⟩
  rw [drawn', drawn, List.foldl_append]

theorem Recorded.foldl {α : Type} {f : World → α → World} (step : ∀ w a, Recorded w (f w a))
    (as : List α) (w : World) : Recorded w (as.foldl f w) := by
  induction as generalizing w with
  | nil => exact .refl w
  | cons a as ih => exact (step w a).trans (ih (f w a))

theorem Recorded.record {w changed : World} {e : Event} (silent : changed.events = w.events)
    (drawn : changed.chart = w.chart.replay e) : Recorded w (changed.record e) :=
  ⟨[e], by simp [silent], drawn⟩

theorem recorded_claimTerritory (w : World) (center : Point) (radius : UInt16)
    (owner : PlayerId) : Recorded w (w.claimTerritory center radius owner) :=
  .record (claimed_frame _ _ _).2.2.2 (chart_claimed w center radius owner)

theorem recorded_destroyObject (w : World) (pt : Point) : Recorded w (w.destroyObject pt) := by
  have emptied : (w.setObject pt .nothing).chart =
      w.chart.edit (· = pt) ({ · with standing := .nothing }) := chart_editNode fun n => rfl
  have silent : (w.setObject pt .nothing).events = w.events := editNode_events ..
  unfold destroyObject
  split
  · exact .refl w
  · exact .refl w
  · exact .record silent emptied
  · rename_i b _
    refine .record silent ?_
    rw [chart_loseHq, emptied]
    rfl

theorem recorded_createBuilding (w : World) (pt : Point) (b : Building) :
    Recorded w (w.createBuilding pt b) := by
  have built : (w.setObject pt (.building b)).chart =
      w.chart.edit (· = pt) ({ · with standing := .building b.kind b.owner }) :=
    chart_editNode fun n => rfl
  have silent : (w.setObject pt (.building b)).events = w.events := editNode_events ..
  unfold createBuilding
  split
  · by_cases hq : b.kind = .headquarters
    · simp only [hq, if_true]
      refine .record silent ?_
      rw [chart_gainHq, built, hq]
      rfl
    · simp only [hq, if_false]
      refine .record silent ?_
      rw [built, Chart.replay, if_neg hq]
  · exact .refl w

theorem recorded_change (w : World) (a : Change) : Recorded w (w.change a) := by
  cases a with
  | claimTerritory center radius owner => exact recorded_claimTerritory w center radius owner
  | foundHeadquarters p pt =>
    simp only [change, foundHeadquarters]
    split
    · exact .refl w
    · exact (recorded_claimTerritory w pt hqRadius p).trans (recorded_createBuilding _ pt _)
  | createBuilding pt b => exact recorded_createBuilding w pt b
  | destroyObject pt => exact recorded_destroyObject w pt
  | destroyBuildingsOf p => exact .foldl recorded_destroyObject (w.buildingsOf p) w
  | notifyVisibility => exact .record rfl rfl

/-- The events are a complete record: whatever the changes, they only add events, and replaying
what they added on the chart of the world before draws the chart of the world after. -/
theorem replay_events_changeAll (w : World) (changes : List Change) :
    ∃ added : List Event,
      (w.changeAll changes).events.toList = w.events.toList ++ added ∧
      (w.changeAll changes).chart = added.foldl Chart.replay w.chart :=
  Recorded.foldl recorded_change changes w

end World

end CheatCodes
