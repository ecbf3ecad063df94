import CheatCodes.Proofs.Session.Effect
import CheatCodes.Proofs.World.Census
import CheatCodes.Proofs.World.Replay
/-!
Buildings under cheats. Each that a run of cheats puts on the map or takes from it is told of by an
event of its own, so the events of the run balance the buildings before it and after it.
-/
namespace CheatCodes

theorem World.kept_surplus (p : PlayerId) (n : Int) : World.Kept (·.surplus p = n) where
  notify w same := (surplus_notifyVisibility p w).trans same
  clear w q same := (surplus_destroyBuildingsOf p w q).trans same
  replace _ _ b node _ same := (surplus_replace p node b).trans same

theorem World.kept_recorded (first : World) : World.Kept (Recorded first) where
  notify w told := told.trans (w.recorded_change .notifyVisibility)
  clear w p told := told.trans (w.recorded_change (.destroyBuildingsOf p))
  replace w pt b _ _ told :=
    (told.trans (w.recorded_destroyObject pt)).trans (recorded_createBuilding _ pt b)

namespace Session

/-- Over a run of cheats the buildings of a player change by those that the events of the run tell
to be created, less those that they tell to be destroyed. -/
theorem run_buildingCount (s : Session) (steps : List Step) (p : PlayerId) :
    ∃ logged : List Event,
      (s.run steps).game.world.events.toList = s.game.world.events.toList ++ logged ∧
      ((s.run steps).game.world.buildingCount p : Int) =
        s.game.world.buildingCount p + logged.countP (·.creates p) -
          logged.countP (·.destroys p) := by
  obtain ⟨logged, grown, _⟩ := run_keeps (World.kept_recorded s.game.world) (.refl _) steps
  have balance : (s.run steps).game.world.surplus p = s.game.world.surplus p :=
    run_keeps (World.kept_surplus p _) rfl steps
  have counted (f : Event → Bool) : (s.run steps).game.world.events.toList.countP f =
      s.game.world.events.toList.countP f + logged.countP f := by
    rw [grown, List.countP_append]
  refine ⟨logged, grown, ?_⟩
  simp only [World.surplus, counted] at balance
  omega

end Session

end CheatCodes
