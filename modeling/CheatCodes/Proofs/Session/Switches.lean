import CheatCodes.Proofs.Session.Applied
/-!
The switches over a play. Each is told by the number of cheats that moved it: cheat mode by those
that a lone human met, the map and the buildings by those that cheat mode met, the stored reveal
mode by all of its own. The map notices each change of what is visible, and nothing else tells it.
-/
namespace CheatCodes

namespace World

def Noticed (w w' : World) (n : ℕ) : Prop :=
  ∃ logged : List Event, w'.events.toList = w.events.toList ++ logged ∧
    logged.count .visibilityChanged = n

theorem Noticed.of_events_eq {w w' : World} (h : w'.events = w.events) : Noticed w w' 0 :=
  ⟨[], by simp [h], rfl⟩

theorem Noticed.trans {w₁ w₂ w₃ : World} {m n : ℕ} (first : Noticed w₁ w₂ m)
    (second : Noticed w₂ w₃ n) : Noticed w₁ w₃ (m + n) := by
  obtain ⟨logged, grown, rfl⟩ := first
  obtain ⟨more, grown', rfl⟩ := second
  exact ⟨logged ++ more, by rw [grown', grown, List.append_assoc], List.count_append⟩

theorem Noticed.foldl {α : Type} {f : World → α → World} (step : ∀ w a, Noticed w (f w a) 0)
    (as : List α) (w : World) : Noticed w (as.foldl f w) 0 := by
  induction as generalizing w with
  | nil => exact .of_events_eq rfl
  | cons a as ih => exact (step w a).trans (ih (f w a))

theorem Noticed.record {w changed : World} {e : Event} (silent : changed.events = w.events)
    (other : e ≠ .visibilityChanged) : Noticed w (changed.record e) 0 :=
  ⟨[e], by simp [World.record, silent], List.count_eq_zero.2 (by simpa using other.symm)⟩

theorem noticed_notifyVisibility (w : World) : Noticed w w.notifyVisibility 1 :=
  ⟨[.visibilityChanged], by simp [notifyVisibility, record], rfl⟩

theorem noticed_destroyObject (w : World) (pt : Point) : Noticed w (w.destroyObject pt) 0 := by
  have silent : (w.setObject pt .nothing).events = w.events := editNode_events ..
  unfold destroyObject
  split
  · exact .of_events_eq rfl
  · exact .of_events_eq rfl
  · exact .record silent nofun
  · exact .record silent nofun

theorem noticed_createBuilding (w : World) (pt : Point) (b : Building) :
    Noticed w (w.createBuilding pt b) 0 := by
  have silent : (w.setObject pt (.building b)).events = w.events := editNode_events ..
  unfold createBuilding
  split
  · split
    · exact .record silent nofun
    · exact .record silent nofun
  · exact .of_events_eq rfl

theorem noticed_replace (w : World) (pt : Point) (b : Building) : Noticed w (w.replace pt b) 0 :=
  (noticed_destroyObject w pt).trans (noticed_createBuilding _ pt b)

theorem noticed_destroyBuildingsOf (w : World) (p : PlayerId) :
    Noticed w (w.destroyBuildingsOf p).2 0 :=
  .foldl noticed_destroyObject (w.buildingsOf p) w

end World

theorem World.addPlayer_events (w : World) (nation : Nation) (control : Control) :
    (w.addPlayer nation control).2.events = w.events := by
  unfold addPlayer
  split <;> rfl

theorem Outside.onWorld_events (w : World) (o : Outside) : (o.onWorld w).events = w.events := by
  cases o with
  | join nation control => exact w.addPlayer_events nation control
  | reassign p control => rfl
  | clientState state => rfl
  | replay on => rfl
  | commit => rfl

namespace RevealMode

/-- How often the mode was advanced from the first one, up to full rounds. -/
def rank : RevealMode → ℕ
  | .nothing => 0
  | .ores => 1
  | .fish => 2
  | .water => 3

theorem rank_next (m : RevealMode) : m.next.rank = (m.rank + 1) % 4 := by
  cases m <;> rfl

theorem rank_iterate_next (n : ℕ) : (next^[n] .nothing).rank = n % 4 := by
  induction n with
  | zero => rfl
  | succ n ih =>
    rw [Function.iterate_succ_apply', rank_next, ih]
    omega

end RevealMode

namespace Game

theorem perform_noticed (g : Game) (a : CheatAction) :
    World.Noticed g.world (g.perform a).world
      (if a = .toggleAllVisible ∧ g.cheats.cheatMode then 1 else 0) := by
  by_cases told : a = .toggleAllVisible ∧ g.cheats.cheatMode = true
  · obtain ⟨rfl, mode⟩ := told
    simpa [perform, toggleAllVisible, mode] using World.noticed_notifyVisibility g.world
  · rw [if_neg told]
    rcases g.perform_world_cases a with same | ⟨kind, mode, _⟩ | ⟨players, cleared⟩
    · rw [same]
      exact .of_events_eq rfl
    · exact absurd ⟨kind, mode⟩ told
    · rw [cleared]
      exact .foldl World.noticed_destroyBuildingsOf players.ids g.world

end Game

namespace Session

theorem turn_cheats_of_none {s : Session} {t : Turn} (h : s.cheat? t = none) :
    (s.turn t).game.cheats = s.game.cheats := by
  rw [turn_cheats, h]
  rfl

theorem turn_noticed_of_none {s : Session} {t : Turn} (h : s.cheat? t = none) :
    World.Noticed s.game.world (s.turn t).game.world 0 := by
  cases t with
  | outside o => exact .of_events_eq (o.onWorld_events s.game.world)
  | call a => cases h
  | own a =>
    rcases s.step_game_cases a with ⟨c, applied, _⟩ | ⟨_, effect⟩ | ⟨pt, p, _, placed, effect⟩
    · cases applied.symm.trans h
    · rw [turn, effect]
      exact .of_events_eq rfl
    · obtain ⟨nation, _, _, changed⟩ := Game.place_of_ok placed
      rw [turn, effect, changed]
      exact World.noticed_replace _ pt _

theorem play_noticed (s : Session) (turns : List Turn) :
    World.Noticed s.game.world (s.play turns).game.world
      ((s.applied turns).countP fun m =>
        m.cheat = .toggleAllVisible ∧ m.game.cheats.cheatMode) := by
  induction turns generalizing s with
  | nil => exact .of_events_eq rfl
  | cons t rest ih =>
    have later := ih (s.turn t)
    cases h : s.cheat? t with
    | none =>
      rw [applied_cons_of_none h, ← Nat.zero_add (List.countP _ _)]
      exact (turn_noticed_of_none h).trans later
    | some a =>
      rw [applied_cons_of_some h, List.countP_cons, Nat.add_comm]
      rw [turn_game_of_some h] at later
      simpa using (s.game.perform_noticed a).trans later

theorem play_flag_iff_odd (flag : Cheats → Bool) {hit : Application → Prop} [DecidablePred hit]
    {s : Session} (turns : List Turn)
    (performed : ∀ m : Application, flag (m.game.perform m.cheat).cheats =
      if hit m then !flag m.game.cheats else flag m.game.cheats)
    (off : flag s.game.cheats = false) :
    flag (s.play turns).game.cheats = true ↔ Odd ((s.applied turns).countP (hit ·)) := by
  rw [play_eq_ite_odd (fun game => flag game.cheats) not (fun m _ => performed m)
    (fun s t h => by rw [turn_cheats_of_none h]) off rfl rfl]
  simp

theorem turn_cheatMode_of_crowd {s : Session} (crowd : s.game.world.humans ≠ 1) (t : Turn) :
    (s.turn t).game.cheats.cheatMode = s.game.cheats.cheatMode := by
  rw [turn_cheats]
  cases s.cheat? t with
  | none => rfl
  | some a =>
    have moved := congrArg Cheats.cheatMode (s.game.perform_cheats a)
    exact moved.trans (if_neg fun alone => crowd alone.2)

theorem play_storedReveal (s : Session) (turns : List Turn) :
    (s.play turns).game.cheats.storedReveal =
      RevealMode.next^[(s.applied turns).countP (·.cheat = .advanceReveal)]
        s.game.cheats.storedReveal := by
  have performed (m : Application) :=
    congrArg Cheats.storedReveal (m.game.perform_cheats m.cheat)
  rw [play_foldl (·.cheats.storedReveal)
    (fun mode m => if m.cheat = .advanceReveal then mode.next else mode) (fun m _ => performed m)
    (fun s t _ h => by rw [turn_cheats_of_none h]), foldl_ite_eq_iterate]

/-- Where the switches stand after a play, by the cheats that it applied. -/
theorem play_switches (config : CheatConfig) (world : World) (client : Client)
    (turns : List Turn) :
    let s := start config world client
    let applied := s.applied turns
    let game := (s.play turns).game
    (game.cheats.cheatMode = true ↔
      Odd (applied.countP fun m => m.cheat = .toggleCheatMode ∧ m.game.world.humans = 1)) ∧
    (game.world.humans ≠ 1 →
      ∀ t, ((s.play turns).turn t).game.cheats.cheatMode = game.cheats.cheatMode) ∧
    (game.cheats.allVisible = true ↔
      Odd (applied.countP fun m => m.cheat = .toggleAllVisible ∧ m.game.cheats.cheatMode)) ∧
    (∃ logged, game.world.events.toList = world.events.toList ++ logged ∧
      logged.count .visibilityChanged =
        applied.countP fun m => m.cheat = .toggleAllVisible ∧ m.game.cheats.cheatMode) ∧
    (game.cheats.allBuildings = true ↔
      Odd (applied.countP fun m => m.cheat = .toggleAllBuildings ∧ m.game.cheats.cheatMode)) ∧
    game.cheats.storedReveal.rank = applied.countP (·.cheat = .advanceReveal) % 4 ∧
    game.cheats.reveal = if game.cheats.cheatMode then game.cheats.storedReveal else .nothing := by
  intro s applied game
  refine ⟨?_, fun crowd t => ?_, ?_, play_noticed s turns, ?_, ?_, rfl⟩
  · exact play_flag_iff_odd Cheats.cheatMode turns
      (fun m => congrArg Cheats.cheatMode (m.game.perform_cheats m.cheat)) rfl
  · exact turn_cheatMode_of_crowd crowd t
  · exact play_flag_iff_odd Cheats.allVisible turns
      (fun m => congrArg Cheats.allVisible (m.game.perform_cheats m.cheat)) rfl
  · exact play_flag_iff_odd Cheats.allBuildings turns
      (fun m => congrArg Cheats.allBuildings (m.game.perform_cheats m.cheat)) rfl
  · rw [play_storedReveal]
    exact RevealMode.rank_iterate_next _

example :
    let s := start .standard ((World.empty 2 2).addPlayer .romans .human).2 (.inGame ⟨0⟩)
    let cheats := (s.play [.call .toggleCheatMode, .call .toggleAllVisible, .call .toggleCheatMode,
      .call .toggleAllVisible]).game.cheats
    cheats.cheatMode = false ∧ cheats.allVisible = true := by decide

end Session

end CheatCodes
