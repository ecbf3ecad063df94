import CheatCodes.Proofs.Config.FrameLength
import CheatCodes.Proofs.Phrase.Progress
import CheatCodes.Proofs.Session.Applied
import CheatCodes.Proofs.Session.Recognition
import CheatCodes.Proofs.Text.Numeral
/-!
The speed steps that keys select and those that a game lets through. The tracker has a copy of the
configured number of steps and the game looks at its own; the two agree over any play, so a selected
step is never turned away while cheat mode is on. The digits select up to nine steps, which is what
a configuration may ask for.
-/
namespace CheatCodes

def KeyEvent.altTyped (c : Char) : KeyEvent :=
  { typed c with alt := true }

namespace KeyTracker

theorem speedStep?_eq_some_iff {steps n : UInt8} {e : KeyEvent} :
    speedStep? steps e = some n ↔
      e.alt = true ∧ Text.digit? e.c = some (n.toNat + 1) ∧ n < steps := by
  constructor
  · intro h
    unfold speedStep? at h
    split at h
    · split at h
      · split at h
        · rename_i alt _ k read within
          have small := Text.lt_ten_of_digit? read
          have word : k.toUInt8.toNat = k :=
            UInt8.toNat_ofNat_of_lt' (Nat.lt_trans (by omega : k < 10) (by decide))
          obtain rfl := Option.some.inj h
          exact ⟨alt, by rw [word, read], by rwa [UInt8.lt_iff_toNat_lt, word]⟩
        · cases h
      · cases h
    · cases h
  · rintro ⟨alt, read, within⟩
    rw [UInt8.lt_iff_toNat_lt] at within
    simp [speedStep?, alt, read, within]

theorem track_eq_setSpeed_iff {t : KeyTracker} {e : KeyEvent} {n : UInt8} :
    (t.track e).1 = some (.setSpeed n) ↔ e.isChar = true ∧ speedStep? t.speedSteps e = some n := by
  unfold track
  by_cases char : e.isChar = true
  · cases speed : speedStep? t.speedSteps e with
    | some step => simp [char]
    | none =>
      simp only [char, if_true]
      split <;> simp
  · rw [if_neg char]
    refine ⟨fun h => ?_, fun h => absurd h.1 char⟩
    rcases specialAction_cases h with ⟨_, h⟩ | h | h | h | h <;> cases h

theorem bounds_of_track {t : KeyTracker} {e : KeyEvent} {n : UInt8}
    (h : (t.track e).1 = some (.setSpeed n)) : n < t.speedSteps ∧ n ≤ 8 := by
  obtain ⟨_, digit, within⟩ := speedStep?_eq_some_iff.1 (track_eq_setSpeed_iff.1 h).2
  have := Text.lt_ten_of_digit? digit
  exact ⟨within, UInt8.le_iff_toNat_le.2 (by change n.toNat ≤ 8; omega)⟩

theorem exists_track_eq_setSpeed_iff {t : KeyTracker} {n : UInt8} :
    (∃ e, (t.track e).1 = some (.setSpeed n)) ↔ n < t.speedSteps ∧ n ≤ 8 := by
  constructor
  · rintro ⟨e, h⟩
    exact bounds_of_track h
  · rintro ⟨within, small⟩
    have small : n.toNat ≤ 8 := UInt8.le_iff_toNat_le.1 small
    have digit := Text.digit?_digitChar (show n.toNat + 1 < 10 by omega)
    exact ⟨.altTyped (n.toNat + 1).digitChar,
      track_eq_setSpeed_iff.2 ⟨rfl, speedStep?_eq_some_iff.2 ⟨rfl, digit, within⟩⟩⟩

theorem track_speedSteps (t : KeyTracker) (e : KeyEvent) :
    (t.track e).2.speedSteps = t.speedSteps := by
  obtain ⟨_, same⟩ := t.track_matched e
  rw [same]
  rfl

end KeyTracker

theorem CheatConfig.le_eight_of_validate {c : CheatConfig} (valid : c.validate = .ok ()) {n : UInt8}
    (within : n < c.tracker.speedSteps) : n ≤ 8 := by
  unfold validate at valid
  split at valid
  · cases valid
  split at valid
  · cases valid
  rename_i range
  have most : c.tracker.speedSteps.toNat ≤ 9 :=
    Nat.not_lt.1 fun past => range (.inr (UInt8.lt_iff_toNat_lt.2 past))
  rw [UInt8.lt_iff_toNat_lt] at within
  exact UInt8.le_iff_toNat_le.2 (by change n.toNat ≤ 8; omega)

theorem Game.perform_setSpeed {g : Game} {n : UInt8} (on : g.cheats.cheatMode = true)
    (within : n < g.cheats.config.tracker.speedSteps) :
    g.perform (.setSpeed n) =
      { g with client := g.client.requestFrameLength (g.cheats.config.frameLength n) } := by
  rw [perform, setSpeed, if_pos ⟨on, within⟩]

namespace Session

theorem turn_speedSteps (s : Session) (t : Turn) :
    (s.turn t).keys.speedSteps = s.keys.speedSteps := by
  cases t with
  | outside o => rfl
  | call a => rfl
  | own a =>
    cases a with
    | key e =>
      have entered : s.turn (.own (.key e)) = (s.enter (.key e)).2 := rfl
      rw [entered, enter_key]
      exact s.keys.track_speedSteps e
    | chat line =>
      have entered : s.turn (.own (.chat line)) = (s.enter (.chat line)).2 := rfl
      rw [entered, enter_chat]
    | action a => rfl
    | place pt p => rfl

theorem play_speedSteps (s : Session) (turns : List Turn) :
    (s.play turns).keys.speedSteps = s.keys.speedSteps := by
  induction turns generalizing s with
  | nil => rfl
  | cons t rest ih => exact (ih (s.turn t)).trans (s.turn_speedSteps t)

/-- The steps that keys select after a play are the first nine of those that the game accepts, and
all of them if the configuration validates. With cheat mode on, a selected step is a request for its
frame length, whatever game the key meets. -/
theorem play_speeds (config : CheatConfig) (world : World) (client : Client)
    (turns : List Turn) :
    let s := (start config world client).play turns
    s.game.cheats.config = config ∧
    (∀ (g : Game) (e : KeyEvent) (n : UInt8), g.cheats.config = config →
      ({ s with game := g }.onKey e).1 = some (.setSpeed n) →
      n < config.tracker.speedSteps ∧ n ≤ 8 ∧
      (config.frameLength n).nanoseconds =
        max 1 (config.baseFrameMs.toNat / 2 ^ n.toNat) * 1000000 ∧
      (g.cheats.cheatMode = true → ({ s with game := g }.onKey e).2.game =
        { g with client := g.client.requestFrameLength (config.frameLength n) })) ∧
    (∀ n, (∃ e, (s.onKey e).1 = some (.setSpeed n)) ↔ n < config.tracker.speedSteps ∧ n ≤ 8) ∧
    (config.validate = .ok () →
      ∀ n, (∃ e, (s.onKey e).1 = some (.setSpeed n)) ↔ n < config.tracker.speedSteps) := by
  intro s
  have steps : s.keys.speedSteps = config.tracker.speedSteps :=
    (start config world client).play_speedSteps turns
  have selected (n : UInt8) :
      (∃ e, (s.onKey e).1 = some (.setSpeed n)) ↔ n < config.tracker.speedSteps ∧ n ≤ 8 := by
    rw [← steps]
    exact KeyTracker.exists_track_eq_setSpeed_iff
  refine ⟨(start config world client).play_config turns, fun g e n configured heard => ?_,
    selected, fun valid n => ?_⟩
  · obtain ⟨within, small⟩ := KeyTracker.bounds_of_track heard
    rw [steps] at within
    refine ⟨within, small, config.nanoseconds_frameLength n, fun on => ?_⟩
    have performed : ({ s with game := g }.onKey e).2.game = g.perform (.setSpeed n) :=
      turn_game_of_some (t := .own (.key e)) heard
    rw [performed, g.perform_setSpeed on (by rwa [configured]), configured]
  · rw [selected]
    exact and_iff_left_of_imp (CheatConfig.le_eight_of_validate valid)

theorem play_speeds_third :
    let s := (start .standard (.empty 2 2) (.inGame ⟨0⟩)).play
      [.outside (.join .romans .human), .call .toggleCheatMode]
    s.game.cheats.cheatMode = true ∧
    (s.onKey (.altTyped '3')).1 = some (.setSpeed 2) ∧
    (s.onKey (.altTyped '3')).2.game.client.requested =
      some (CheatConfig.standard.frameLength 2) ∧
    (CheatConfig.standard.frameLength 2).nanoseconds = 12 * 1000000 ∧
    ∃ e, (s.onKey e).1 = some (.setSpeed 5) := by
  obtain ⟨configured, granted, _, selected⟩ := play_speeds .standard (.empty 2 2) (.inGame ⟨0⟩)
    [.outside (.join .romans .human), .call .toggleCheatMode]
  obtain ⟨_, _, length, requested⟩ := granted _ (.altTyped '3') 2 configured (by decide)
  exact ⟨by decide, by decide, congrArg (·.client.requested) (requested (by decide)),
    length.trans (by decide), (selected (by decide) 5).2 (by decide)⟩

end Session

end CheatCodes
