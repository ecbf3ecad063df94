import CheatCodes.Proofs.Session.Applied
import Mathlib.Data.List.DropRight
/-!
The client over a play. The last speed that was granted since the last commit waits, and a commit
puts it into effect; who plays for the local player is told by the parity of the takeovers that a
running game let through. The rest of the client is left to others.
-/
namespace CheatCodes

/-- The speed step that a cheat asks for while cheat mode is on, if there is such a step. -/
def Application.grantedSpeed? (config : CheatConfig) (m : Application) : Option UInt8 :=
  m.cheat.speed?.filter fun step => m.game.cheats.cheatMode && step < config.tracker.speedSteps

theorem foldl_or_eq_getLast? {α β : Type} (f : β → Option α) (bs : List β) (a : Option α) :
    bs.foldl (fun a b => (f b).or a) a = (bs.filterMap f).getLast?.or a := by
  induction bs generalizing a with
  | nil => rfl
  | cons b bs ih =>
    rw [List.foldl_cons, ih]
    cases h : f b with
    | none => simp [h]
    | some c =>
      rw [List.filterMap_cons_some h, List.getLast?_cons]
      cases (bs.filterMap f).getLast? <;> rfl

namespace Session

theorem turn_client_of_none {s : Session} {t : Turn} (h : s.cheat? t = none) :
    (s.turn t).game.client = t.outside?.elim s.game.client (Outside.onClient s.game.client) := by
  rw [turn_client, h]
  rfl

theorem requested_turn_of_none {s : Session} {t : Turn} (kept : t ≠ .outside .commit)
    (h : s.cheat? t = none) : (s.turn t).game.client.requested = s.game.client.requested := by
  rw [turn_client_of_none h]
  cases t with
  | own a => rfl
  | call a => rfl
  | outside o =>
    cases o with
    | commit => exact absurd rfl kept
    | _ => rfl

theorem takeover_turn_of_none {s : Session} {t : Turn} (h : s.cheat? t = none) :
    (s.turn t).game.client.takeover = s.game.client.takeover := by
  rw [turn_client_of_none h]
  cases t with
  | own a => rfl
  | call a => rfl
  | outside o => cases o <;> rfl

theorem play_requested {s : Session} {turns : List Turn} {config : CheatConfig}
    (configured : s.game.cheats.config = config) (kept : ∀ t ∈ turns, t ≠ .outside .commit) :
    (s.play turns).game.client.requested =
      (((s.applied turns).filterMap (·.grantedSpeed? config)).getLast?.map config.frameLength).or
        s.game.client.requested := by
  have performed (m : Application) (listed : m ∈ s.applied turns) :
      (m.game.perform m.cheat).client.requested =
        ((m.grantedSpeed? config).map config.frameLength).or m.game.client.requested := by
    rw [Game.perform_client, (config_of_mem_applied listed).trans configured]
    rfl
  rw [play_foldl (·.client.requested)
    (fun waiting m => ((m.grantedSpeed? config).map config.frameLength).or waiting) performed
    (fun s t listed h => requested_turn_of_none (kept t listed) h), foldl_or_eq_getLast?,
    ← List.map_filterMap, List.getLast?_map]

theorem requested_play_committed {s : Session} (idle : s.game.client.requested = none)
    (turns : List Turn) :
    (s.play (turns.rdropWhile (· ≠ .outside .commit))).game.client.requested = none := by
  by_cases never : turns.rdropWhile (· ≠ .outside .commit) = []
  · rw [never]
    exact idle
  · have last : (turns.rdropWhile (· ≠ .outside .commit)).getLast never = .outside .commit := by
      simpa using List.rdropWhile_last_not (· ≠ Turn.outside .commit) turns never
    rw [← List.dropLast_append_getLast never, last, play_append]
    rfl

theorem turn_own_client {s : Session} {t : Turn} (own : t.outside? = none) :
    ∃ requested takeover,
      (s.turn t).game.client = { s.game.client with requested, takeover } := by
  rw [turn_client, own]
  cases s.cheat? t with
  | none => exact ⟨_, _, rfl⟩
  | some a => exact ⟨_, _, s.game.perform_client a⟩

theorem frameLength_turn (s : Session) (t : Turn) :
    (s.turn t).game.client.frameLength =
      if t = .outside .commit then s.game.client.requested.getD s.game.client.frameLength
      else s.game.client.frameLength := by
  cases t with
  | outside o => cases o <;> rfl
  | own a =>
    obtain ⟨_, _, same⟩ := s.turn_own_client (t := .own a) rfl
    rw [same, if_neg nofun]
  | call a =>
    obtain ⟨_, _, same⟩ := s.turn_own_client (t := .call a) rfl
    rw [same, if_neg nofun]

theorem play_takeover {s : Session} {config : CheatConfig}
    (configured : s.game.cheats.config = config) (own : s.game.client.takeover = none)
    (turns : List Turn) :
    (s.play turns).game.client.takeover =
      if Odd ((s.applied turns).countP fun m => m.cheat = .toggleTakeover ∧
        m.game.cheats.cheatMode ∧ m.game.client.state = .game ∧ m.game.client.replay = false)
      then some config.takeoverAi else none := by
  refine play_eq_ite_odd (·.client.takeover)
    (fun ai? => if ai?.isSome then none else some config.takeoverAi)
    (fun m listed => ?_) (fun s t h => takeover_turn_of_none h) own rfl rfl
  rw [Game.perform_client, (config_of_mem_applied listed).trans configured]
  rfl

/-- What the client waits for and who plays for it after a play, by the cheats that it applied. -/
theorem play_client (config : CheatConfig) (world : World) (client : Client)
    (idle : client.requested = none) (own : client.takeover = none) (turns : List Turn) :
    let s := start config world client
    let committed := turns.rdropWhile (· ≠ .outside .commit)
    let recent := turns.rtakeWhile (· ≠ .outside .commit)
    let now := (s.play turns).game.client
    let after (t : Turn) := ((s.play turns).turn t).game.client
    now.requested = (((s.play committed).applied recent).filterMap
      (·.grantedSpeed? config)).getLast?.map config.frameLength ∧
    (∀ t, (after t).frameLength =
      if t = .outside .commit then now.requested.getD now.frameLength else now.frameLength) ∧
    (now.takeover =
      if Odd ((s.applied turns).countP fun m => m.cheat = .toggleTakeover ∧
        m.game.cheats.cheatMode ∧ m.game.client.state = .game ∧ m.game.client.replay = false)
      then some config.takeoverAi else none) ∧
    ∀ t, t.outside? = none → (after t).state = now.state ∧ (after t).replay = now.replay ∧
      (after t).localPlayer = now.localPlayer := by
  intro s committed recent now after
  refine ⟨?_, frameLength_turn (s.play turns), play_takeover rfl own turns, fun t ours => ?_⟩
  · have waiting : (s.play committed).game.client.requested = none :=
      requested_play_committed idle turns
    have kept : ∀ t ∈ recent, t ≠ .outside .commit := fun t listed => by
      simpa using List.mem_rtakeWhile_imp listed
    have requested := play_requested (s.play_config committed) kept
    rwa [← play_append, List.rdropWhile_append_rtakeWhile, waiting, Option.or_none] at requested
  · obtain ⟨_, _, same⟩ := (s.play turns).turn_own_client ours
    simp only [after, same]
    exact ⟨rfl, rfl, rfl⟩

/-- A speed is committed and two more are asked for, one of them too high; the second takeover meets
a replay. -/
def hastyPlay : List Turn :=
  [.outside (.join .romans .human), .call .toggleCheatMode, .own (.action (.setSpeed 2)),
    .outside .commit, .own (.action (.setSpeed 3)), .own (.action (.setSpeed 9)),
    .own (.action .toggleTakeover), .outside (.replay true), .call .toggleTakeover]

theorem play_client_hasty :
    let client := Client.inGame ⟨0⟩
    let now := ((start .standard (.empty 2 2) client).play hastyPlay).game.client
    client.requested = none ∧ client.takeover = none ∧
    now.requested = some (CheatConfig.standard.frameLength 3) ∧
    now.takeover = some CheatConfig.standard.takeoverAi := by
  obtain ⟨requested, _, takeover, _⟩ :=
    play_client .standard (.empty 2 2) (.inGame ⟨0⟩) rfl rfl hastyPlay
  exact ⟨rfl, rfl, requested.trans (by decide), takeover.trans (by decide)⟩

end Session

end CheatCodes
