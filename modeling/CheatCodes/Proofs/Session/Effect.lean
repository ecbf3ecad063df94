import CheatCodes.Proofs.Session.CheatModeOff
import CheatCodes.Proofs.World.Building
/-!
What a session can do to each part of a game. The world is only told of visibility, cleared of
buildings, or given a headquarters; the switches move by the applied cheats alone; what others do
reaches the world and the client.
-/
namespace CheatCodes

theorem World.node?_of_quality {w : World} {pt : Point} (h : .hut ≤ w.quality pt) :
    ∃ n, w.node? pt = some n := by
  cases found : w.node? pt with
  | none => exact absurd h (by simp [quality, found]; decide)
  | some n => exact ⟨n, rfl⟩

theorem Cheats.node_of_check {c : Cheats} {w : World} {pt : Point} (h : c.check w pt = .ok ()) :
    (w.object? pt).isSome := by
  have allowed : ¬ w.quality pt < .hut := by
    unfold check at h
    split at h
    · cases h
    split at h
    · cases h
    split at h
    · cases h
    split at h
    · cases h
    · assumption
  obtain ⟨n, found⟩ := World.node?_of_quality (Nat.not_lt.1 allowed)
  simp [World.object?, found]

def CheatAction.speed? : CheatAction → Option UInt8
  | .setSpeed step => some step
  | _ => none

namespace Game

theorem place_of_ok {g : Game} {pt : Point} {p : PlayerId} (granted : (g.place pt p).1 = .ok ()) :
    ∃ nation, g.world.nation? p = some nation ∧ (g.world.object? pt).isSome ∧
      (g.place pt p).2 = { g with
        world := g.world.replace pt ⟨.headquarters, p, nation, g.world.hqIsTent p⟩ } := by
  cases verdict : g.cheats.check g.world pt with
  | error e =>
    rw [place, Cheats.place_of_check verdict] at granted
    cases granted
  | ok _ =>
    cases found : g.world.nation? p with
    | none =>
      rw [place, Cheats.place_of_unknown verdict found] at granted
      cases granted
    | some nation =>
      refine ⟨nation, rfl, Cheats.node_of_check verdict, ?_⟩
      rw [place, Cheats.place_of_known verdict found]
      rfl

theorem destroyBuildings_world_cases (g : Game) (players : PlayerSet) :
    (g.destroyBuildings players).world = g.world ∨
    (g.destroyBuildings players).world =
        players.ids.foldl (fun w p => (w.destroyBuildingsOf p).2) g.world := by
  unfold destroyBuildings
  split
  · exact .inr rfl
  · exact .inl rfl

theorem destroyBuildings_cheats (g : Game) (players : PlayerSet) :
    (g.destroyBuildings players).cheats = g.cheats := by
  unfold destroyBuildings
  split <;> rfl

theorem perform_cheats (g : Game) (a : CheatAction) :
    (g.perform a).cheats =
      { g.cheats with
        cheatMode := if a = .toggleCheatMode ∧ g.world.humans = 1 then !g.cheats.cheatMode
          else g.cheats.cheatMode
        allVisible := if a = .toggleAllVisible ∧ g.cheats.cheatMode then !g.cheats.allVisible
          else g.cheats.allVisible
        allBuildings := if a = .toggleAllBuildings ∧ g.cheats.cheatMode then
          !g.cheats.allBuildings else g.cheats.allBuildings
        storedReveal := if a = .advanceReveal then g.cheats.storedReveal.next
          else g.cheats.storedReveal } := by
  cases a with
  | toggleCheatMode =>
    by_cases alone : g.world.humans = 1
    · simp [perform, toggleCheatMode, World.isSinglePlayer_iff, alone]
    · simp [perform, toggleCheatMode_eq_self alone, alone]
  | toggleAllVisible =>
    obtain ⟨⟨config, mode, visible, buildings, reveal⟩, world, client⟩ := g
    cases mode <;> simp [perform, toggleAllVisible]
  | toggleAllBuildings =>
    obtain ⟨⟨config, mode, visible, buildings, reveal⟩, world, client⟩ := g
    cases mode <;> simp [perform, toggleAllBuildings]
  | advanceReveal => simp [perform, advanceReveal]
  | toggleTakeover => simp [perform, toggleTakeover, apply_ite Game.cheats]
  | setSpeed step => simp [perform, setSpeed, apply_ite Game.cheats]
  | destroyBuildings players => simp [perform, destroyBuildings_cheats]
  | destroyAiBuildings => simp [perform, destroyAiBuildings, destroyBuildings_cheats]
  | armageddon => simp [perform, armageddon, destroyBuildings_cheats]

theorem perform_config (g : Game) (a : CheatAction) :
    (g.perform a).cheats.config = g.cheats.config := by
  rw [perform_cheats]

theorem destroyBuildings_client (g : Game) (players : PlayerSet) :
    (g.destroyBuildings players).client = g.client := by
  unfold destroyBuildings
  split <;> rfl

theorem perform_client (g : Game) (a : CheatAction) :
    (g.perform a).client =
      { g.client with
        requested := ((a.speed?.filter fun step => g.cheats.cheatMode &&
          step < g.cheats.config.tracker.speedSteps).map g.cheats.config.frameLength).or
            g.client.requested
        takeover :=
          if a = .toggleTakeover ∧ g.cheats.cheatMode ∧ g.client.state = .game ∧
            g.client.replay = false
          then (g.client.toggleTakeover g.cheats.config.takeoverAi).takeover
          else g.client.takeover } := by
  cases a with
  | setSpeed step =>
    by_cases granted : g.cheats.cheatMode = true ∧ step < g.cheats.config.tracker.speedSteps
    · simp [perform, setSpeed, CheatAction.speed?, Option.filter_some, granted,
        Client.requestFrameLength]
    · simp [perform, setSpeed, CheatAction.speed?, Option.filter_some, granted]
  | toggleTakeover =>
    by_cases running : g.cheats.cheatMode = true ∧ g.client.state = .game ∧ g.client.replay = false
    · simp [perform, toggleTakeover, running, CheatAction.speed?, Client.toggleTakeover]
    · simp [perform, toggleTakeover, running, CheatAction.speed?]
  | toggleCheatMode => simp [perform, toggleCheatMode_client, CheatAction.speed?]
  | toggleAllVisible => simp [perform, toggleAllVisible, apply_ite Game.client, CheatAction.speed?]
  | advanceReveal => simp [perform, advanceReveal, CheatAction.speed?]
  | toggleAllBuildings =>
    simp [perform, toggleAllBuildings, apply_ite Game.client, CheatAction.speed?]
  | destroyBuildings players => simp [perform, destroyBuildings_client, CheatAction.speed?]
  | destroyAiBuildings =>
    simp [perform, destroyAiBuildings, destroyBuildings_client, CheatAction.speed?]
  | armageddon => simp [perform, armageddon, destroyBuildings_client, CheatAction.speed?]

theorem perform_world_cases (g : Game) (a : CheatAction) :
    (g.perform a).world = g.world ∨
    (a = .toggleAllVisible ∧ g.cheats.cheatMode = true ∧
      (g.perform a).world = g.world.notifyVisibility) ∨
    ∃ players : PlayerSet,
      (g.perform a).world = players.ids.foldl (fun w p => (w.destroyBuildingsOf p).2) g.world := by
  cases a with
  | toggleCheatMode => exact .inl (by simp [perform, toggleCheatMode, apply_ite Game.world])
  | toggleAllVisible =>
    cases mode : g.cheats.cheatMode with
    | true => exact .inr (.inl ⟨rfl, rfl, by simp [perform, toggleAllVisible, mode]⟩)
    | false => exact .inl (by simp [perform, toggleAllVisible, mode])
  | advanceReveal => exact .inl rfl
  | toggleTakeover => exact .inl (by simp [perform, toggleTakeover, apply_ite Game.world])
  | setSpeed step => exact .inl (by simp [perform, setSpeed, apply_ite Game.world])
  | destroyBuildings players =>
    exact (g.destroyBuildings_world_cases players).imp_right fun h => .inr ⟨_, h⟩
  | destroyAiBuildings =>
    exact (g.destroyBuildings_world_cases _).imp_right fun h => .inr ⟨_, h⟩
  | armageddon => exact (g.destroyBuildings_world_cases _).imp_right fun h => .inr ⟨_, h⟩
  | toggleAllBuildings =>
    exact .inl (by simp [perform, toggleAllBuildings, apply_ite Game.world])

theorem perform_keeps {P : World → Prop} (notify : ∀ w, P w → P w.notifyVisibility)
    (clear : ∀ w p, P w → P (w.destroyBuildingsOf p).2) {g : Game} (h : P g.world)
    (a : CheatAction) : P (g.perform a).world := by
  rcases g.perform_world_cases a with same | ⟨_, _, notified⟩ | ⟨players, cleared⟩
  · rw [same]
    exact h
  · rw [notified]
    exact notify _ h
  · rw [cleared]
    refine List.foldlRecOn players.ids _ h fun w before q _ => ?_
    exact clear w q before

end Game

structure World.Kept (P : World → Prop) : Prop where
  notify : ∀ w, P w → P w.notifyVisibility
  clear : ∀ w p, P w → P (w.destroyBuildingsOf p).2
  replace : ∀ w pt b, (w.object? pt).isSome → b.kind = .headquarters → P w → P (w.replace pt b)

namespace Session

theorem step_cheats_client (s : Session) (a : Step) :
    let effect := (s.applied? a).elim s.game s.game.perform
    (s.step a).game.cheats = effect.cheats ∧ (s.step a).game.client = effect.client := by
  rcases s.step_game_cases a with ⟨c, applied, effect⟩ | ⟨applied, effect⟩ |
    ⟨pt, p, rfl, placed, effect⟩
  · rw [effect, applied]
    exact ⟨rfl, rfl⟩
  · rw [effect, applied]
    exact ⟨rfl, rfl⟩
  · obtain ⟨nation, _, _, changed⟩ := Game.place_of_ok placed
    rw [effect, changed]
    exact ⟨rfl, rfl⟩

theorem turn_cheats (s : Session) (t : Turn) :
    (s.turn t).game.cheats = ((s.cheat? t).elim s.game s.game.perform).cheats := by
  cases t with
  | outside o => rfl
  | call a => rfl
  | own a => exact (s.step_cheats_client a).1

theorem turn_client (s : Session) (t : Turn) :
    (s.turn t).game.client =
      t.outside?.elim ((s.cheat? t).elim s.game s.game.perform).client
        (Outside.onClient s.game.client) := by
  cases t with
  | outside o => rfl
  | call a => rfl
  | own a => exact (s.step_cheats_client a).2

theorem step_keeps {P : World → Prop} (kept : World.Kept P) {s : Session} (h : P s.game.world)
    (a : Step) : P (s.step a).game.world := by
  rcases s.step_game_cases a with ⟨c, _, effect⟩ | ⟨_, effect⟩ | ⟨pt, p, _, placed, effect⟩
  · rw [effect]
    exact Game.perform_keeps kept.notify kept.clear h c
  · rw [effect]
    exact h
  · obtain ⟨nation, _, node, changed⟩ := Game.place_of_ok placed
    rw [effect, changed]
    exact kept.replace _ _ _ node rfl h

theorem run_keeps {P : World → Prop} (kept : World.Kept P) {s : Session} (h : P s.game.world)
    (steps : List Step) : P (s.run steps).game.world := by
  induction steps generalizing s with
  | nil => exact h
  | cons a rest ih => exact ih (step_keeps kept h a)

end Session

end CheatCodes
