import CheatCodes.Proofs.Session.Turn
/-!
What cheat mode guards. While it is off only its own switch and the stored reveal mode move, and
that switch wants a single human. A play in which cheat mode is never switched by a lone human
therefore leaves to the others all that happens to the world and the client.
-/
namespace CheatCodes

def World.humans (w : World) : Nat :=
  w.players.toList.countP (·.control = .human)

theorem World.isSinglePlayer_iff (w : World) : w.isSinglePlayer = true ↔ w.humans = 1 := by
  simp [isSinglePlayer, humans]

namespace Game

theorem toggleCheatMode_eq_self {g : Game} (h : g.world.humans ≠ 1) : g.toggleCheatMode = g := by
  rw [toggleCheatMode, if_neg (mt g.world.isSinglePlayer_iff.1 h)]

theorem toggleCheatMode_world (g : Game) : g.toggleCheatMode.world = g.world := by
  unfold toggleCheatMode
  split <;> rfl

theorem toggleCheatMode_client (g : Game) : g.toggleCheatMode.client = g.client := by
  unfold toggleCheatMode
  split <;> rfl

theorem destroyBuildings_off {g : Game} (off : g.cheats.cheatMode = false) (players : PlayerSet) :
    g.destroyBuildings players = g := by
  simp [destroyBuildings, off]

theorem perform_off {g : Game} {a : CheatAction} (off : g.cheats.cheatMode = false)
    (mode : a ≠ .toggleCheatMode) (reveal : a ≠ .advanceReveal) : g.perform a = g := by
  cases a with
  | toggleCheatMode => exact absurd rfl mode
  | advanceReveal => exact absurd rfl reveal
  | toggleAllVisible => simp [perform, toggleAllVisible, off]
  | toggleTakeover => simp [perform, toggleTakeover, off]
  | setSpeed step => simp [perform, setSpeed, off]
  | destroyBuildings players => exact destroyBuildings_off off players
  | destroyAiBuildings => exact destroyBuildings_off off _
  | armageddon => exact destroyBuildings_off off _
  | toggleAllBuildings => simp [perform, toggleAllBuildings, off]

theorem perform_scene_off {g : Game} (off : g.cheats.cheatMode = false) (a : CheatAction) :
    (g.perform a).world = g.world ∧ (g.perform a).client = g.client := by
  by_cases mode : a = .toggleCheatMode
  · subst mode
    exact ⟨toggleCheatMode_world g, toggleCheatMode_client g⟩
  by_cases reveal : a = .advanceReveal
  · subst reveal
    exact ⟨rfl, rfl⟩
  rw [perform_off off mode reveal]
  exact ⟨rfl, rfl⟩

theorem place_off {g : Game} (off : g.cheats.cheatMode = false) (pt : Point) (p : PlayerId) :
    g.place pt p = (.error .cheatModeOff, g) := by
  have against : g.cheats.check g.world pt = .error .cheatModeOff := by simp [Cheats.check, off]
  rw [place, Cheats.place_of_check against]

end Game

/-- Cheat mode is off, and nothing that it unlocks is switched on. -/
structure Cheats.Dormant (c : Cheats) : Prop where
  cheatMode : c.cheatMode = false
  allVisible : c.allVisible = false
  allBuildings : c.allBuildings = false

theorem Cheats.dormant_ofConfig (config : CheatConfig) : (ofConfig config).Dormant :=
  ⟨rfl, rfl, rfl⟩

theorem Cheats.Dormant.reveal {c : Cheats} (h : c.Dormant) : c.reveal = .nothing := by
  simp [Cheats.reveal, h.cheatMode]

theorem Game.perform_dormant {g : Game} {a : CheatAction} (dormant : g.cheats.Dormant)
    (crowd : a = .toggleCheatMode → g.world.humans ≠ 1) : (g.perform a).cheats.Dormant := by
  by_cases mode : a = .toggleCheatMode
  · have same : g.perform a = g := by
      rw [mode]
      exact toggleCheatMode_eq_self (crowd mode)
    rwa [same]
  by_cases reveal : a = .advanceReveal
  · rw [reveal]
    exact ⟨dormant.cheatMode, dormant.allVisible, dormant.allBuildings⟩
  rwa [perform_off dormant.cheatMode mode reveal]

namespace Session

/-- No turn of the play switches cheat mode while exactly one human takes part. -/
def NeverAlone (s : Session) : List Turn → Prop
  | [] => True
  | t :: rest =>
    (s.cheat? t = some .toggleCheatMode → s.game.world.humans ≠ 1) ∧ (s.turn t).NeverAlone rest

instance decidableNeverAlone (s : Session) : ∀ turns, Decidable (s.NeverAlone turns)
  | [] => .isTrue trivial
  | t :: rest =>
    have := (s.turn t).decidableNeverAlone rest
    inferInstanceAs (Decidable (_ ∧ _))

theorem neverAlone_take {s : Session} {turns : List Turn} (h : s.NeverAlone turns) (n : Nat) :
    s.NeverAlone (turns.take n) := by
  induction turns generalizing s n with
  | nil => simpa using h
  | cons t rest ih =>
    cases n with
    | zero => trivial
    | succ n => exact ⟨h.1, ih h.2 n⟩

theorem turn_scene_off {s : Session} (off : s.game.cheats.cheatMode = false) {t : Turn}
    (own : t.outside? = none) :
    (s.turn t).game.world = s.game.world ∧ (s.turn t).game.client = s.game.client := by
  cases t with
  | outside o => cases own
  | call c => exact Game.perform_scene_off off c
  | own a =>
    rcases s.step_game_cases a with ⟨c, _, effect⟩ | ⟨_, effect⟩ | ⟨pt, p, _, placed, _⟩
    · rw [turn, effect]
      exact Game.perform_scene_off off c
    · rw [turn, effect]
      exact ⟨rfl, rfl⟩
    · rw [Game.place_off off] at placed
      cases placed

theorem turn_dormant {s : Session} {t : Turn} (dormant : s.game.cheats.Dormant)
    (crowd : s.cheat? t = some .toggleCheatMode → s.game.world.humans ≠ 1) :
    (s.turn t).game.cheats.Dormant := by
  cases t with
  | outside o => exact dormant
  | call c => exact Game.perform_dormant dormant fun mode => crowd (congrArg some mode)
  | own a =>
    rcases s.step_game_cases a with ⟨c, applied, effect⟩ | ⟨_, effect⟩ | ⟨pt, p, _, placed, _⟩
    · rw [turn, effect]
      exact Game.perform_dormant dormant fun mode => crowd (applied.trans (congrArg some mode))
    · rw [turn, effect]
      exact dormant
    · rw [Game.place_off dormant.cheatMode] at placed
      cases placed

theorem play_neverAlone {s : Session} (turns : List Turn) (dormant : s.game.cheats.Dormant)
    (never : s.NeverAlone turns) :
    (s.play turns).game.cheats.Dormant ∧
    (s.play turns).game.world = (turns.filterMap Turn.outside?).foldl Outside.onWorld s.game.world ∧
    (s.play turns).game.client =
      (turns.filterMap Turn.outside?).foldl Outside.onClient s.game.client := by
  induction turns generalizing s with
  | nil => exact ⟨dormant, rfl, rfl⟩
  | cons t rest ih =>
    have after := ih (turn_dormant dormant never.1) never.2
    cases h : t.outside? with
    | none =>
      have same := turn_scene_off dormant.cheatMode h
      rw [same.1, same.2] at after
      simpa [h] using after
    | some o =>
      cases t with
      | outside o' =>
        cases h
        simpa [Turn.outside?, turn] using after
      | own a => cases h
      | call c => cases h

/-- A session does nothing to the world and the client while cheat mode is off, and over a play in
which no lone human switches cheat mode it does nothing to them at all. -/
theorem play_guarded (config : CheatConfig) (world : World) (client : Client)
    (turns : List Turn) :
    let s := start config world client
    ((s.play turns).game.cheats.cheatMode = false →
      (∀ t, t.outside? = none →
        ((s.play turns).turn t).game.world = (s.play turns).game.world ∧
        ((s.play turns).turn t).game.client = (s.play turns).game.client) ∧
      ∀ pt p, (s.play turns).place pt p = (.error .cheatModeOff, s.play turns)) ∧
    (s.NeverAlone turns → ∀ n,
      let game := (s.play (turns.take n)).game
      let others := (turns.take n).filterMap Turn.outside?
      game.world = others.foldl Outside.onWorld world ∧
      game.client = others.foldl Outside.onClient client ∧
      game.cheats.cheatMode = false ∧ game.cheats.allVisible = false ∧
      game.cheats.allBuildings = false ∧ game.cheats.reveal = .nothing) := by
  refine ⟨fun off => ⟨fun t own => turn_scene_off off own, fun pt p => ?_⟩, fun never n => ?_⟩
  · rw [place, Game.place_off off]
  · obtain ⟨dormant, onWorld, onClient⟩ :=
      play_neverAlone (s := start config world client) (turns.take n)
        (Cheats.dormant_ofConfig config) (neverAlone_take never n)
    exact ⟨onWorld, onClient, dormant.cheatMode, dormant.allVisible, dormant.allBuildings,
      dormant.reveal⟩

/-- Two humans: the phrase, other cheats and a placement, then one of them leaves. -/
def crowdedPlay : List Turn :=
  [.outside (.join .romans .human), .outside (.join .vikings .human)] ++
  "winter".toList.map (fun c => .own (.key (.typed c))) ++
  [.call .toggleAllVisible, .own (.chat "apocalypsis"), .own (.place ⟨0, 0⟩ ⟨0⟩),
    .outside (.reassign ⟨1⟩ .ai)]

theorem play_guarded_crowded :
    let s := start .standard (.empty 2 2) (.inGame ⟨0⟩)
    s.NeverAlone crowdedPlay ∧
    (s.play crowdedPlay).game.cheats.cheatMode = false ∧
    (s.play crowdedPlay).place ⟨0, 0⟩ ⟨0⟩ = (.error .cheatModeOff, s.play crowdedPlay) ∧
    (s.play (crowdedPlay.take 12)).game.world =
      ((crowdedPlay.take 12).filterMap Turn.outside?).foldl Outside.onWorld (.empty 2 2) := by
  have guarded := play_guarded .standard (.empty 2 2) (.inGame ⟨0⟩) crowdedPlay
  have never : (start .standard (.empty 2 2) (.inGame ⟨0⟩)).NeverAlone crowdedPlay := by decide
  have off : ((start .standard (.empty 2 2) (.inGame ⟨0⟩)).play
      crowdedPlay).game.cheats.cheatMode = false := by decide
  exact ⟨never, off, (guarded.1 off).2 _ _, (guarded.2 never 12).1⟩

end Session

end CheatCodes
