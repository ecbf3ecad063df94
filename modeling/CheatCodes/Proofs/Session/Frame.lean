import CheatCodes.Proofs.Session.Effect
import CheatCodes.Proofs.World.Ground
/-!
What a run of cheats leaves alone. The ground of the map and the players stay as they were, so that
the verdicts on cheat headquarters, the lone human and the deposits stay as well. An object only
gives way to nothing if it is a building, and to a headquarters if that is placed on its node.
-/
namespace CheatCodes

theorem World.kept_ground (ground : Ground) : World.Kept (·.ground = ground) where
  notify _ same := same
  clear w p same := (w.ground_destroyBuildingsOf p).trans same
  replace w pt b _ _ same := (w.ground_replace pt b).trans same

theorem World.kept_roster (roster : Array (PlayerId × Nation × Control)) :
    World.Kept (·.roster = roster) where
  notify _ same := same
  clear w p same := (w.roster_destroyBuildingsOf p).trans same
  replace w pt b _ _ same := (w.roster_replace pt b).trans same

theorem Game.razed_perform (g : Game) (a : CheatAction) :
    World.Razed g.world (g.perform a).world := by
  apply Game.perform_keeps (P := World.Razed g.world)
  · intro w razed
    exact razed
  · intro w p razed
    exact razed.trans (w.razed_destroyBuildingsOf p)
  · exact .refl g.world

namespace Session

def Places (s : Session) (a : Step) (pt : Point) : Prop :=
  ∃ p, a = .place pt p ∧ (s.game.place pt p).1 = .ok ()

theorem object?_step_cases (s : Session) (a : Step) (pt : Point) :
    (s.step a).game.world.object? pt = s.game.world.object? pt ∨
    ((∃ b, s.game.world.object? pt = some (.building b)) ∧
      (s.step a).game.world.object? pt = some .nothing) ∨
    (s.Places a pt ∧ ∃ b, b.kind = .headquarters ∧
      (s.step a).game.world.object? pt = some (.building b)) := by
  rcases s.step_game_cases a with ⟨c, _, effect⟩ | ⟨_, effect⟩ | ⟨qt, p, rfl, placed, effect⟩
  · rw [effect]
    rcases s.game.razed_perform c pt with same | lost
    · exact .inl same
    · exact .inr (.inl lost)
  · rw [effect]
    exact .inl rfl
  · obtain ⟨nation, _, node, changed⟩ := Game.place_of_ok placed
    have objects := World.object?_replace node
      ⟨.headquarters, p, nation, s.game.world.hqIsTent p⟩ pt
    rw [effect, changed]
    by_cases here : pt = qt
    · subst here
      rw [if_pos rfl] at objects
      exact .inr (.inr ⟨⟨p, rfl, placed⟩, _, rfl, objects⟩)
    · rw [if_neg here] at objects
      exact .inl objects

theorem environment_run {s : Session} {steps : List Step} {pt : Point}
    (wild : s.game.world.object? pt = some .environment) :
    (s.run steps).game.world.object? pt = some .environment ∨
      ∃ n a, steps[n]? = some a ∧ (s.run (steps.take n)).Places a pt := by
  induction steps generalizing s with
  | nil => exact .inl wild
  | cons a rest ih =>
    -- The first step that does not leave the environment as it is has to be a placement.
    rcases s.object?_step_cases a pt with same | ⟨⟨b, stands⟩, _⟩ | ⟨placed, _⟩
    · rcases ih (same.trans wild) with kept | ⟨n, b, found, placed⟩
      · exact .inl kept
      · exact .inr ⟨n + 1, b, found, placed⟩
    · rw [wild] at stands
      cases stands
    · exact .inr ⟨0, a, rfl, placed⟩

/-- A run of cheats changes neither the ground nor the players, and with them the verdicts on cheat
headquarters and the deposits that show. The next step changes an object only if it clears a
building or places a headquarters there; the environment gives way to a placement alone. -/
theorem run_frame (s : Session) (steps : List Step) :
    let first := s.game.world
    let last := (s.run steps).game.world
    (last.ground = first.ground ∧ last.roster = first.roster) ∧
    (∀ a pt, let next := ((s.run steps).step a).game.world
      next.object? pt = last.object? pt ∨
      ((∃ b, last.object? pt = some (.building b)) ∧ next.object? pt = some .nothing) ∨
      ((s.run steps).Places a pt ∧ ∃ b, b.kind = .headquarters ∧
        next.object? pt = some (.building b))) ∧
    (∀ pt, first.object? pt = some .environment → last.object? pt = some .environment ∨
      ∃ n a, steps[n]? = some a ∧ (s.run (steps.take n)).Places a pt) ∧
    last.isSinglePlayer = first.isSinglePlayer ∧
    (∀ (c : Cheats) pt, c.check last pt = c.check first pt) ∧
    ∀ c client, Game.revealed ⟨c, last, client⟩ = Game.revealed ⟨c, first, client⟩ := by
  intro first last
  have ground : last.ground = first.ground := run_keeps (World.kept_ground first.ground) rfl steps
  have roster : last.roster = first.roster := run_keeps (World.kept_roster first.roster) rfl steps
  refine ⟨⟨ground, roster⟩, object?_step_cases (s.run steps), fun pt => environment_run, ?_, ?_, ?_⟩
  · exact World.isSinglePlayer_congr roster
  · intro c pt
    exact c.check_congr ground pt
  · intro c client
    exact Game.revealed_congr ground c client client

def clearing : World :=
  (((World.empty 3 3).addPlayer .romans .human).2.setObject ⟨1, 1⟩ .environment).createBuilding
    ⟨2, 2⟩ ⟨.headquarters, ⟨0⟩, .romans, true⟩

theorem run_frame_clearing :
    let s := start .standard clearing (.inGame ⟨0⟩)
    let steps := [.action .toggleCheatMode, .place ⟨1, 1⟩ ⟨0⟩, .action .armageddon]
    clearing.object? ⟨1, 1⟩ = some .environment ∧
    (s.run steps).game.world.object? ⟨1, 1⟩ = some .nothing ∧
    (∃ n a, steps[n]? = some a ∧ (s.run (steps.take n)).Places a ⟨1, 1⟩) ∧
    (s.run steps).game.world.ground = clearing.ground := by
  intro s steps
  have wild : clearing.object? ⟨1, 1⟩ = some .environment := by decide
  have bare : (s.run steps).game.world.object? ⟨1, 1⟩ = some .nothing := by decide
  obtain ⟨⟨ground, _⟩, _, environment, _⟩ := run_frame s steps
  refine ⟨wild, bare, ?_, ground⟩
  rcases environment ⟨1, 1⟩ wild with kept | placed
  · rw [bare] at kept
    cases kept
  · exact placed

end Session

end CheatCodes
