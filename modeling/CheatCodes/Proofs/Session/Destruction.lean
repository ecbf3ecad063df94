import CheatCodes.Proofs.Session.Headquarters
import CheatCodes.Proofs.World.Clearing
/-!
The destruction cheats. Each clears the buildings of a set of players, in a single turn and told in
order; the sets of all players and of all computer players are read off the slots. Sets that are
destroyed one after the other leave the map and the slots as their union does.
-/
namespace CheatCodes

instance : Union PlayerSet :=
  ⟨fun a b => .ofList (a.ids ++ b.ids)⟩

theorem PlayerSet.mem_union {a b : PlayerSet} {p : PlayerId} : p ∈ a ∪ b ↔ p ∈ a ∨ p ∈ b :=
  mem_ofList.trans List.mem_append

namespace World

theorem mem_playersWhere {w : World} {holds : Control → Bool} {p : PlayerId} :
    p ∈ w.playersWhere holds ↔
      ∃ player, w.player? p = some player ∧ holds player.control = true := by
  have read : (w.control? p).any holds = true ↔
      ∃ player, w.player? p = some player ∧ holds player.control = true := by
    rw [control?, Option.any_map]
    cases w.player? p <;> simp
  simp only [playersWhere, PlayerSet.mem_ofList, List.mem_filterMap, List.mem_range,
    Option.filter_eq_some_iff, PlayerId.ofIndex?_eq_some, read]
  constructor
  · rintro ⟨_, _, _, held⟩
    exact held
  · rintro ⟨player, found, held⟩
    exact ⟨p.index, (Array.getElem?_eq_some_iff.1 found).1, rfl, player, found, held⟩

theorem slots_playersWhere {w : World} (few : w.players.size ≤ 256) (holds : Control → Bool)
    (i : Nat) : (∃ p ∈ w.playersWhere holds, p.index = i) ↔
      ∃ player, w.players[i]? = some player ∧ holds player.control = true := by
  constructor
  · rintro ⟨p, member, rfl⟩
    exact mem_playersWhere.1 member
  · rintro ⟨player, found, held⟩
    have slot : i < w.players.size := (Array.getElem?_eq_some_iff.1 found).1
    obtain ⟨p, rfl⟩ := PlayerId.exists_index (Nat.lt_of_lt_of_le slot few)
    exact ⟨p, mem_playersWhere.2 ⟨player, found, held⟩, rfl⟩

end World

namespace Game

theorem destroyBuildings_of_on {g : Game} (on : g.cheats.cheatMode = true) (S : PlayerSet) :
    g.destroyBuildings S =
      { g with world := S.ids.foldl (fun w p => (w.destroyBuildingsOf p).2) g.world } :=
  if_pos on

theorem razes_destroyBuildings {g : Game} (on : g.cheats.cheatMode = true) (S : PlayerSet) :
    g.world.Razes (fun p => p ∈ S) (g.destroyBuildings S).world := by
  rw [destroyBuildings_of_on on]
  exact World.razes_destroyBuildings S g.world

theorem destroyBuildings_twice {g : Game} (on : g.cheats.cheatMode = true) {A B C : PlayerSet}
    (both : ∀ p, p ∈ C ↔ p ∈ A ∨ p ∈ B) :
    let twice := ((g.destroyBuildings A).destroyBuildings B).world
    let once := (g.destroyBuildings C).world
    (∀ pt, twice.node? pt = once.node? pt) ∧ ∀ p, twice.hq? p = once.hq? p := by
  have still : (g.destroyBuildings A).cheats.cheatMode = true := by
    rw [destroyBuildings_of_on on]
    exact on
  have twice := (razes_destroyBuildings on A).toClears.trans
    (razes_destroyBuildings still B).toClears
  have once := (razes_destroyBuildings on C).toClears
  simp only [both, Bool.decide_or] at once
  exact twice.unique once

/-- In cheat mode the buildings of the given players are cleared and told of in order; those of the
computer players and of all players are given by the slots. The order of two sets leaves no trace
on the map or in the slots. -/
theorem destroyBuildings_exact (g : Game) (few : g.world.players.size ≤ 256)
    (on : g.cheats.cheatMode = true) :
    (∀ S : PlayerSet, g.world.Razes (fun p => p ∈ S) (g.destroyBuildings S).world) ∧
    (∃ S : PlayerSet, (∀ i, (∃ p ∈ S, p.index = i) ↔
        ∃ player, g.world.players[i]? = some player ∧ player.control = .ai) ∧
      g.destroyAiBuildings = g.destroyBuildings S) ∧
    (∃ S : PlayerSet, (∀ i, (∃ p ∈ S, p.index = i) ↔ i < g.world.players.size) ∧
      g.armageddon = g.destroyBuildings S) ∧
    ∀ A B : PlayerSet,
      let joint := (g.destroyBuildings (A ∪ B)).world
      let there := ((g.destroyBuildings A).destroyBuildings B).world
      let back := ((g.destroyBuildings B).destroyBuildings A).world
      (∀ pt, there.node? pt = joint.node? pt ∧ back.node? pt = joint.node? pt) ∧
      ∀ p, there.hq? p = joint.hq? p ∧ back.hq? p = joint.hq? p := by
  refine ⟨razes_destroyBuildings on, ⟨_, fun i => ?_, rfl⟩, ⟨_, fun i => ?_, rfl⟩, fun A B => ?_⟩
  · rw [World.slots_playersWhere few]
    simp
  · rw [World.slots_playersWhere few]
    simp [Array.getElem?_eq_some_iff]
  · obtain ⟨nodes, slots⟩ := destroyBuildings_twice on fun p => PlayerSet.mem_union
    obtain ⟨nodes', slots'⟩ := destroyBuildings_twice on fun p =>
      (PlayerSet.mem_union (a := A) (b := B) (p := p)).trans or_comm
    exact ⟨fun pt => ⟨nodes pt, nodes' pt⟩, fun p => ⟨slots p, slots' p⟩⟩

def encampment : Game where
  cheats := { Cheats.ofConfig .standard with cheatMode := true }
  world :=
    (Session.campsite.createBuilding ⟨1, 0⟩ ⟨.woodcutter, ⟨1⟩, .vikings, false⟩).createBuilding
      ⟨0, 1⟩ ⟨.headquarters, ⟨1⟩, .vikings, false⟩
  client := .inGame ⟨0⟩

theorem destroyBuildings_exact_encampment :
    let w := encampment.destroyAiBuildings.world
    encampment.world.players.size ≤ 256 ∧ encampment.cheats.cheatMode = true ∧
    w.node? ⟨1, 0⟩ = some .open ∧ w.node? ⟨0, 1⟩ = some .open ∧ w.hq? ⟨1⟩ = none ∧
    w.node? ⟨0, 0⟩ = encampment.world.node? ⟨0, 0⟩ ∧ w.hq? ⟨0⟩ = some ⟨0, 0⟩ := by
  have few : encampment.world.players.size ≤ 256 := by decide
  have on : encampment.cheats.cheatMode = true := rfl
  intro w
  obtain ⟨each, ⟨S, slots, cheat⟩, _⟩ := destroyBuildings_exact encampment few on
  have razed := each S
  rw [← cheat] at razed
  have computer : (⟨1⟩ : PlayerId) ∈ S := by
    obtain ⟨p, member, index⟩ := (slots 1).2 ⟨_, rfl, rfl⟩
    have same : p = ⟨1⟩ := PlayerId.ext_index index
    rwa [same] at member
  have human : (⟨0⟩ : PlayerId) ∉ S := by
    intro member
    obtain ⟨player, found, control⟩ := (slots 0).1 ⟨_, member, rfl⟩
    cases found
    cases control
  have woodcutter : encampment.world.node? ⟨1, 0⟩ =
      some { Node.open with object := .building ⟨.woodcutter, ⟨1⟩, .vikings, false⟩ } := by decide
  have headquarters : encampment.world.node? ⟨0, 1⟩ =
      some { Node.open with object := .building ⟨.headquarters, ⟨1⟩, .vikings, false⟩ } := by decide
  have tent : encampment.world.node? ⟨0, 0⟩ =
      some { Node.open with object := .building ⟨.headquarters, ⟨0⟩, .romans, true⟩ } := by decide
  have cleared : w.hq? ⟨1⟩ = none := by
    rw [Option.eq_none_iff_forall_ne_some]
    intro pt kept
    obtain ⟨slot, spared⟩ := (razed.hq _ _).1 kept
    have here : encampment.world.hq? ⟨1⟩ = some ⟨0, 1⟩ := by decide
    rw [here] at slot
    cases slot
    exact spared ⟨decide_eq_true computer, by decide⟩
  have held : w.hq? ⟨0⟩ = some ⟨0, 0⟩ :=
    (razed.hq _ _).2 ⟨by decide, fun gone => human (of_decide_eq_true gone.1)⟩
  refine ⟨few, on, ?_, ?_, cleared, ?_, held⟩
  · rw [razed.node, woodcutter]
    simp [NodeObject.raze, computer, Node.open]
  · rw [razed.node, headquarters]
    simp [NodeObject.raze, computer, Node.open]
  · rw [razed.node, tent]
    simp [NodeObject.raze, human]

end Game

end CheatCodes
