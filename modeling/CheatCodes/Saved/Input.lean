import CheatCodes.Action
import CheatCodes.Key.Event
import CheatCodes.Saved.World
/-!
The JSON forms of key presses and of the cheats they trigger.
-/
namespace CheatCodes
open Json (Codec encode decode?)

instance : Codec KeyEvent where
  encode e := .obj [("kind", encode e.kind), ("c", encode e.c), ("ctrl", encode e.ctrl),
    ("shift", encode e.shift), ("alt", encode e.alt)]
  decode? j :=
    if j.isRecord 5 then do
      return {
        kind := ← j.required? 0 "kind"
        c := ← j.required? 1 "c"
        ctrl := ← j.required? 2 "ctrl"
        shift := ← j.required? 3 "shift"
        alt := ← j.required? 4 "alt" }
    else none

def bareAction? : String → Option CheatAction
  | "ToggleCheatMode" => some .toggleCheatMode
  | "ToggleAllVisible" => some .toggleAllVisible
  | "ToggleResourceRevealMode" => some .advanceReveal
  | "ToggleHumanAiPlayer" => some .toggleTakeover
  | "DestroyAllAiBuildings" => some .destroyAiBuildings
  | "Armageddon" => some .armageddon
  | "ToggleAllBuildingsEnabled" => some .toggleAllBuildings
  | _ => none

instance : Codec CheatAction where
  encode
    | .toggleCheatMode => .str "ToggleCheatMode"
    | .toggleAllVisible => .str "ToggleAllVisible"
    | .advanceReveal => .str "ToggleResourceRevealMode"
    | .toggleTakeover => .str "ToggleHumanAiPlayer"
    | .setSpeed step => .obj [("SetGameSpeed", encode step)]
    | .destroyBuildings players => .obj [("DestroyBuildings", encode players)]
    | .destroyAiBuildings => .str "DestroyAllAiBuildings"
    | .armageddon => .str "Armageddon"
    | .toggleAllBuildings => .str "ToggleAllBuildingsEnabled"
  decode? j := do
    let (name, content) ← j.variant?
    match name with
    | "SetGameSpeed" => return .setSpeed (← decode? (← content))
    | "DestroyBuildings" => return .destroyBuildings (← decode? (← content))
    | _ => if Json.isBare content then bareAction? name else none

end CheatCodes
