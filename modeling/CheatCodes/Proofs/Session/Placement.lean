import CheatCodes.Proofs.Session.Headquarters
import CheatCodes.Proofs.World.Clearing
/-!
The placement of a cheat headquarters. What stands against it is listed with its errors: the first
that applies decides the answer, and a refused placement leaves the session as it was. One that is
granted changes a single node and tells what it removes before what it builds.
-/
namespace CheatCodes

namespace Cheats

/-- What may stand against a placement, in the order of the tests, with the error of each. -/
def obstacles (c : Cheats) (w : World) (pt : Point) (p : PlayerId) :
    List (Bool × PlacementError) :=
  [(!c.cheatMode, .cheatModeOff),
    ((w.owner? pt).isSome, .owned pt),
    ((w.neighbours pt).any fun near => (w.owner? near).isSome, .nearBorder pt),
    (w.quality pt < .hut, .quality pt (w.quality pt)),
    ((w.player? p).isNone, .unknownPlayer p)]

def refusal? (c : Cheats) (w : World) (pt : Point) (p : PlayerId) : Option PlacementError :=
  ((c.obstacles w pt p).find? (·.1)).map (·.2)

variable {c : Cheats} {w : World} {pt : Point} {p : PlayerId}

theorem refusal?_eq_none : c.refusal? w pt p = none ↔
    c.cheatMode = true ∧ w.owner? pt = none ∧ (∀ near ∈ w.neighbours pt, w.owner? near = none) ∧
      .hut ≤ w.quality pt ∧ ∃ player, w.player? p = some player := by
  have allowed : ¬ w.quality pt < .hut ↔ .hut ≤ w.quality pt := Nat.not_lt
  simp [refusal?, obstacles, ← allowed, Option.isSome_iff_exists.symm]

theorem check_cases (c : Cheats) (w : World) (pt : Point) (p : PlayerId) :
    (∃ e, c.refusal? w pt p = some e ∧ c.check w pt = .error e) ∨
    c.refusal? w pt p = (if (w.player? p).isNone then some (.unknownPlayer p) else none) ∧
      c.check w pt = .ok () := by
  unfold check refusal? obstacles
  -- One obstacle after the other; the player alone is looked for outside of the check.
  by_cases off : (!c.cheatMode) = true
  · exact .inl ⟨_, by simp [off], if_pos off⟩
  rw [if_neg off]
  by_cases taken : (w.owner? pt).isSome = true
  · exact .inl ⟨_, by simp [off, taken], if_pos taken⟩
  rw [if_neg taken]
  by_cases border : (w.neighbours pt).any (fun near => (w.owner? near).isSome) = true
  · exact .inl ⟨_, by simp [off, taken, border], if_pos border⟩
  rw [if_neg border]
  by_cases poor : w.quality pt < .hut
  · exact .inl ⟨_, by simp [off, taken, border, poor], if_pos poor⟩
  refine .inr ⟨?_, if_neg poor⟩
  by_cases unknown : (w.player? p).isNone = true
  · simp [off, taken, border, poor, unknown]
  · simp [off, taken, border, poor, unknown]

theorem place_cases (c : Cheats) (w : World) (pt : Point) (p : PlayerId) :
    (∃ e, c.refusal? w pt p = some e ∧ c.place w pt p = (.error e, w)) ∨
    c.refusal? w pt p = none ∧ ∃ nation, w.nation? p = some nation ∧
      c.place w pt p = (.ok (), w.replace pt ⟨.headquarters, p, nation, w.hqIsTent p⟩) := by
  rcases c.check_cases w pt p with ⟨e, refused, verdict⟩ | ⟨refused, verdict⟩
  · exact .inl ⟨e, refused, place_of_check verdict⟩
  · cases found : w.player? p with
    | none =>
      have unknown : w.nation? p = none := by simp [World.nation?, found]
      exact .inl ⟨.unknownPlayer p, by simp [refused, found], place_of_unknown verdict unknown⟩
    | some player =>
      have known : w.nation? p = some player.nation := by simp [World.nation?, found]
      exact .inr ⟨by simp [refused, found], player.nation, known, place_of_known verdict known⟩

end Cheats

namespace World

theorem node?_replace {w : World} {pt : Point} (node : (w.object? pt).isSome) (b : Building)
    (qt : Point) : (w.replace pt b).node? qt =
      if qt = pt then (w.node? pt).map fun n => { n with object := .building b }
      else w.node? qt := by
  have object := object?_replace node b qt
  by_cases here : qt = pt
  · subst here
    rw [if_pos rfl] at object ⊢
    obtain ⟨before, found⟩ := Option.isSome_iff_exists.1 node
    refine node?_of_object? (f := fun _ => .building b) (w.ground_replace qt b) ?_
    rw [object, found]
    rfl
  · rw [if_neg here] at object ⊢
    have same : (w.replace pt b).object? qt = (w.object? qt).map id := by
      rw [object, Option.map_id, id]
    simpa using node?_of_object? (w.ground_replace pt b) same

theorem events_replace {w : World} {pt : Point} (node : (w.object? pt).isSome) (b : Building) :
    (w.replace pt b).events.toList =
      w.events.toList ++ w.removal pt ++ [.buildingCreated pt b.kind b.owner] := by
  obtain ⟨object, cleared⟩ := Option.isSome_iff_exists.1 (object?_destroyObject_isSome node)
  rw [replace, events_createBuilding (contains_of_object? cleared), events_destroyObject]

end World

namespace Session

/-- A headquarters is placed exactly when nothing stands against it. A refusal names the first
obstacle and leaves the world as it was. Otherwise the node holds a headquarters of the player, a
tent if the player's was one before, and the events tell what it replaces and that it is built. -/
theorem place_exact (s : Session) (pt : Point) (p : PlayerId) :
    let c := s.game.cheats
    let w := s.game.world
    let answer := (c.place w pt p).1
    let after := (c.place w pt p).2
    s.step (.place pt p) = { s with game.world := after } ∧
    (answer = .ok () ↔
      c.cheatMode = true ∧ w.contains pt = true ∧ w.owner? pt = none ∧
        (∀ near ∈ w.neighbours pt, w.owner? near = none) ∧ .hut ≤ w.quality pt ∧
        ∃ player, w.player? p = some player) ∧
    (∀ e, answer = .error e →
      c.refusal? w pt p = some e ∧ after = w ∧ s.step (.place pt p) = s) ∧
    (answer = .ok () →
      (∃ node nation, w.node? pt = some node ∧ w.nation? p = some nation ∧
        after.node? pt = some { node with
          object := .building ⟨.headquarters, p, nation, w.hqIsTent p⟩ } ∧
        after.events.toList = w.events.toList ++ node.object.removal pt ++
          [.buildingCreated pt .headquarters p]) ∧
      ∀ qt ≠ pt, after.node? qt = w.node? qt) := by
  intro c w answer after
  have stepped : s.step (.place pt p) = { s with game.world := after } := rfl
  rcases c.place_cases w pt p with ⟨e, refused, verdict⟩ | ⟨free, nation, known, verdict⟩
  · have told : answer = .error e := congrArg (·.1) verdict
    have same : after = w := congrArg (·.2) verdict
    have failed : answer ≠ .ok () := by simp [told]
    refine ⟨stepped, iff_of_false failed ?_, ?_, fun granted => absurd granted failed⟩
    · rintro ⟨on, _, unowned, clear, allowed, player⟩
      rw [Cheats.refusal?_eq_none.2 ⟨on, unowned, clear, allowed, player⟩] at refused
      cases refused
    · intro e' other
      rw [told] at other
      cases other
      refine ⟨refused, same, ?_⟩
      rw [stepped, same]
  · have told : answer = .ok () := congrArg (·.1) verdict
    have changed : after = w.replace pt ⟨.headquarters, p, nation, w.hqIsTent p⟩ :=
      congrArg (·.2) verdict
    obtain ⟨on, unowned, clear, allowed, player⟩ := Cheats.refusal?_eq_none.1 free
    obtain ⟨node, here⟩ := World.node?_of_quality allowed
    have object : w.object? pt = some node.object := by rw [World.object?, here]; rfl
    have stands : (w.object? pt).isSome := by rw [object]; rfl
    refine ⟨stepped, iff_of_true told ?_, ?_, fun _ => ⟨⟨node, nation, here, known, ?_, ?_⟩, ?_⟩⟩
    · exact ⟨on, World.contains_of_object? object, unowned, clear, allowed, player⟩
    · intro e refused
      rw [told] at refused
      cases refused
    · rw [changed, World.node?_replace stands, if_pos rfl, here]
      rfl
    · rw [changed, World.events_replace stands, World.removal, object]
      rfl
    · intro qt away
      rw [changed, World.node?_replace stands, if_neg away]

theorem place_exact_campsite :
    let s := (start .standard campsite (.inGame ⟨0⟩)).step (.action .toggleCheatMode)
    let c := s.game.cheats
    let w := s.game.world
    ((c.place w ⟨0, 0⟩ ⟨0⟩).1 = .ok () ∧
      (c.place w ⟨0, 0⟩ ⟨0⟩).2.object? ⟨0, 0⟩ =
        some (.building ⟨.headquarters, ⟨0⟩, .romans, true⟩) ∧
      (c.place w ⟨0, 0⟩ ⟨0⟩).2.events.toList = w.events.toList ++
        [.buildingDestroyed ⟨0, 0⟩ .headquarters ⟨0⟩, .buildingCreated ⟨0, 0⟩ .headquarters ⟨0⟩]) ∧
    ((c.place w ⟨0, 0⟩ ⟨7⟩).1 = .error (.unknownPlayer ⟨7⟩) ∧ (c.place w ⟨0, 0⟩ ⟨7⟩).2 = w) ∧
    (c.place w ⟨2, 0⟩ ⟨0⟩).1 = .error (.quality ⟨2, 0⟩ .nothing) ∧
      s.step (.place ⟨2, 0⟩ ⟨0⟩) = s := by
  intro s c w
  obtain ⟨_, granted, _, placed⟩ := place_exact s ⟨0, 0⟩ ⟨0⟩
  obtain ⟨_, _, unknown, _⟩ := place_exact s ⟨0, 0⟩ ⟨7⟩
  obtain ⟨_, _, beside, _⟩ := place_exact s ⟨2, 0⟩ ⟨0⟩
  have stood : w.node? ⟨0, 0⟩ =
      some { Node.open with object := .building ⟨.headquarters, ⟨0⟩, .romans, true⟩ } := by decide
  have nation : w.nation? ⟨0⟩ = some .romans := by decide
  have tent : w.hqIsTent ⟨0⟩ = true := by decide
  have done : (c.place w ⟨0, 0⟩ ⟨0⟩).1 = .ok () :=
    granted.2 ⟨by decide, by decide, by decide, by decide, by decide, _, rfl⟩
  obtain ⟨⟨node, nation', here, known, after, told⟩, _⟩ := placed done
  rw [stood] at here
  rw [nation] at known
  cases here
  cases known
  have pitched : (c.place w ⟨0, 0⟩ ⟨0⟩).2.object? ⟨0, 0⟩ =
      some (.building ⟨.headquarters, ⟨0⟩, .romans, true⟩) := by
    rw [World.object?, after, tent]
    rfl
  have stranger : (c.place w ⟨0, 0⟩ ⟨7⟩).1 = .error (.unknownPlayer ⟨7⟩) := by decide
  have outside : (c.place w ⟨2, 0⟩ ⟨0⟩).1 = .error (.quality ⟨2, 0⟩ .nothing) := by decide
  exact ⟨⟨done, pitched, told⟩, ⟨stranger, (unknown _ stranger).2.1⟩, outside,
    (beside _ outside).2.2⟩

end Session

end CheatCodes
