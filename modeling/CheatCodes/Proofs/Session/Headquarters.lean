import CheatCodes.Proofs.Session.Effect
import CheatCodes.Proofs.World.Headquarters
/-!
Headquarters slots over a run of cheats. Sound slots stay sound, so that the tent flag and the
summary can be trusted. A complete slot stays complete exactly as long as no placement evicts its
player: puts the headquarters of another where the slot points while the player has one elsewhere.
-/
namespace CheatCodes

theorem World.kept_slotSound (p : PlayerId) : World.Kept (·.SlotSound p) where
  notify _ sound := sound
  clear _ q sound := sound.destroyBuildingsOf q
  replace _ _ _ node _ sound := sound.replace node

theorem World.kept_numbered : World.Kept Numbered where
  notify _ numbered := numbered
  clear w p numbered := numbered.congr (w.roster_destroyBuildingsOf p)
  replace w pt b _ _ numbered := numbered.congr (w.roster_replace pt b)

namespace Game

theorem slotComplete_perform {g : Game} {p : PlayerId} (h : g.world.SlotComplete p)
    (a : CheatAction) : (g.perform a).world.SlotComplete p :=
  perform_keeps (P := (·.SlotComplete p)) (fun _ kept => kept)
    (fun _ q kept => kept.destroyBuildingsOf q) h a

end Game

namespace Session

theorem slotSound_step {s : Session} {p : PlayerId} (h : s.game.world.SlotSound p) (a : Step) :
    (s.step a).game.world.SlotSound p :=
  step_keeps (World.kept_slotSound p) h a

theorem slotSound_run {s : Session} {p : PlayerId} (h : s.game.world.SlotSound p)
    (steps : List Step) : (s.run steps).game.world.SlotSound p :=
  run_keeps (World.kept_slotSound p) h steps

theorem numbered_run {s : Session} (h : s.game.world.Numbered) (steps : List Step) :
    (s.run steps).game.world.Numbered :=
  run_keeps World.kept_numbered h steps

def campsite : World :=
  (((World.empty 2 2).addPlayer .romans .human).2.addPlayer .vikings .ai).2.createBuilding ⟨0, 0⟩
    ⟨.headquarters, ⟨0⟩, .romans, true⟩

/-- The human pitches a second tent, then the other player builds over the first. -/
def eviction : List Step :=
  [.action .toggleCheatMode, .place ⟨1, 1⟩ ⟨0⟩, .place ⟨0, 0⟩ ⟨1⟩]

theorem campsite_slotSound (p : PlayerId) : campsite.SlotSound p := by
  refine World.SlotSound.createBuilding ?_ rfl ?_
  · intro pt slot
    simp [World.hq?_empty] at slot
  · rintro ⟨b, stands, _⟩
    simp [World.object?_empty_ne_building] at stands

theorem campsite_slotComplete (p : PlayerId) : campsite.SlotComplete p := by
  intro pt stands
  rw [campsite, World.hasHq_createBuilding rfl] at stands
  split at stands
  · obtain ⟨_, rfl⟩ := stands
    have slot : campsite.hq? ⟨0⟩ = some ⟨0, 0⟩ := by decide
    exact ⟨_, slot, campsite_slotSound _ _ slot⟩
  · obtain ⟨b, stands, _⟩ := stands
    simp [World.object?_empty_ne_building] at stands

/-- Over a run of cheats every filled slot points at a standing headquarters of its player, whose
tent flag it tells; who is reported with a headquarters has a building. -/
theorem run_slotSound (s : Session) (sound : ∀ p, s.game.world.SlotSound p) (steps : List Step) :
    let game := (s.run steps).game
    (∀ p, game.world.SlotSound p) ∧
    (∀ p, game.world.hq? p = none → game.world.hqIsTent p = false) ∧
    (∀ p pt, game.world.hq? p = some pt →
      ∃ b, game.world.object? pt = some (.building b) ∧ b.kind = .headquarters ∧ b.owner = p ∧
        game.world.hqIsTent p = b.isTent) ∧
    (s.game.world.Numbered → ∀ summary ∈ game.summary.players,
      summary.hasHq = true → 1 ≤ summary.buildings) := by
  have after (p : PlayerId) : (s.run steps).game.world.SlotSound p := slotSound_run (sound p) steps
  refine ⟨after, fun p => World.hqIsTent_of_empty, fun p pt => (after p).isTent, ?_⟩
  intro numbered summary listed
  exact World.one_le_buildings (numbered_run numbered steps) after listed

theorem run_slotSound_campsite :
    let s := start .standard campsite (.inGame ⟨0⟩)
    (∀ p, s.game.world.SlotSound p) ∧ s.game.world.Numbered ∧
    (∀ p, (s.run eviction).game.world.SlotSound p) ∧
    ∀ summary ∈ (s.run eviction).game.summary.players,
      summary.hasHq = true → 1 ≤ summary.buildings := by
  have numbered : campsite.Numbered :=
    (((World.numbered_empty 2 2).addPlayer .romans .human).addPlayer .vikings .ai).congr
      (World.roster_createBuilding ..)
  obtain ⟨after, _, _, reported⟩ :=
    run_slotSound (start .standard campsite (.inGame ⟨0⟩)) campsite_slotSound eviction
  exact ⟨campsite_slotSound, numbered, after, reported numbered⟩

/-- The step puts the headquarters of another player where the slot points, and its player has one
elsewhere. -/
def Evicts (s : Session) (q : PlayerId) : Step → Prop
  | .place pt p => p ≠ q ∧ (s.game.place pt p).1 = .ok () ∧ s.game.world.hq? q = some pt ∧
    ∃ other, other ≠ pt ∧ s.game.world.HasHq q other
  | _ => False

theorem slotComplete_step_iff {s : Session} {q : PlayerId} (sound : s.game.world.SlotSound q)
    (complete : s.game.world.SlotComplete q) (a : Step) :
    (s.step a).game.world.SlotComplete q ↔ ¬ s.Evicts q a := by
  have performs (applied : (s.step a).game = (s.applied? a).elim s.game s.game.perform) :
      (s.step a).game.world.SlotComplete q := by
    rw [applied]
    cases s.applied? a with
    | none => exact complete
    | some c => exact Game.slotComplete_perform complete c
  cases a with
  | key e => exact iff_of_true (performs (performAny_game _ _)) id
  | chat line => exact iff_of_true (performs (performAny_game _ _)) id
  | action c => exact iff_of_true (performs rfl) id
  | place pt p =>
    have after : (s.step (.place pt p)).game = (s.game.place pt p).2 := rfl
    cases answer : (s.game.place pt p).1 with
    | error e =>
      rw [after, Game.place_of_error answer]
      refine iff_of_true complete ?_
      rintro ⟨_, placed, _⟩
      rw [answer] at placed
      cases placed
    | ok _ =>
      obtain ⟨nation, found, node, changed⟩ := Game.place_of_ok answer
      have known : (s.game.world.player? p).isSome := by
        rw [World.nation?] at found
        cases player : s.game.world.player? p with
        | none => simp [player] at found
        | some _ => rfl
      rw [after, changed, World.slotComplete_replace_iff sound complete node rfl known]
      refine not_congr (and_congr_right fun _ => ?_)
      exact ⟨fun h => ⟨answer, h⟩, fun h => h.2⟩

/-- A complete slot stays complete over a run of cheats exactly as long as no step evicts its
player. -/
theorem run_slotComplete_iff (s : Session) (q : PlayerId) (sound : s.game.world.SlotSound q)
    (complete : s.game.world.SlotComplete q) (steps : List Step) :
    (∀ n, (s.run (steps.take n)).game.world.SlotComplete q) ↔
      ∀ n a, steps[n]? = some a → ¬ (s.run (steps.take n)).Evicts q a := by
  induction steps generalizing s with
  | nil =>
    refine iff_of_true (fun n => ?_) fun n a found => ?_
    · rw [List.take_nil]
      exact complete
    · cases found
  | cons a rest ih =>
    have later := ih (s.step a) (slotSound_step sound a)
    have now := slotComplete_step_iff sound complete a
    constructor
    · intro kept n b found
      have next : (s.step a).game.world.SlotComplete q := kept 1
      cases n with
      | zero =>
        cases found
        exact now.1 next
      | succ n => exact (later next).1 (fun n => kept (n + 1)) n b found
    · intro spared n
      have next : (s.step a).game.world.SlotComplete q := now.2 (spared 0 a rfl)
      cases n with
      | zero => exact complete
      | succ n => exact (later next).2 (fun n b => spared (n + 1) b) n

theorem run_slotComplete_iff_campsite :
    let s := start .standard campsite (.inGame ⟨0⟩)
    s.game.world.SlotSound ⟨0⟩ ∧ s.game.world.SlotComplete ⟨0⟩ ∧
    ∀ n, (s.run ((eviction.take 2).take n)).game.world.SlotComplete ⟨0⟩ := by
  refine ⟨campsite_slotSound _, campsite_slotComplete _, ?_⟩
  refine (run_slotComplete_iff (start .standard campsite (.inGame ⟨0⟩)) ⟨0⟩ (campsite_slotSound _)
    (campsite_slotComplete _) (eviction.take 2)).2 ?_
  intro n a found evicted
  match n, found with
  | 0, found =>
    cases found
    exact evicted
  | 1, found =>
    cases found
    exact evicted.1 rfl

/-- Evicted from the first of two tents, the human is reported without a headquarters. -/
theorem evicted_unreported :
    let s := start .standard campsite (.inGame ⟨0⟩)
    let w := (s.run eviction).game.world
    (∀ p, s.game.world.SlotSound p ∧ s.game.world.SlotComplete p) ∧
    w.object? ⟨1, 1⟩ = some (.building ⟨.headquarters, ⟨0⟩, .romans, true⟩) ∧
    w.hq? ⟨0⟩ = none ∧ w.hqIsTent ⟨0⟩ = false ∧ ¬ w.SlotComplete ⟨0⟩ := by
  have stands : ((start .standard campsite (.inGame ⟨0⟩)).run eviction).game.world.object? ⟨1, 1⟩ =
      some (.building ⟨.headquarters, ⟨0⟩, .romans, true⟩) := by decide
  have empty : ((start .standard campsite (.inGame ⟨0⟩)).run eviction).game.world.hq? ⟨0⟩ =
      none := by decide
  refine ⟨fun p => ⟨campsite_slotSound p, campsite_slotComplete p⟩, stands, empty,
    World.hqIsTent_of_empty empty, fun complete => ?_⟩
  obtain ⟨qt, slot, _⟩ := complete ⟨1, 1⟩ ⟨_, stands, rfl, rfl⟩
  rw [empty] at slot
  cases slot

end Session

end CheatCodes
