import CheatCodes.Player
/-!
What a recognised cheat asks for, however it was entered.
-/
namespace CheatCodes

inductive CheatAction where
  | toggleCheatMode
  | toggleAllVisible
  | advanceReveal
  | toggleTakeover
  /-- Runs the game at a speed step; step 0 is normal speed. -/
  | setSpeed (step : UInt8)
  | destroyBuildings (players : PlayerSet)
  | destroyAiBuildings
  | armageddon
  | toggleAllBuildings
  deriving DecidableEq, Repr

def CheatAction.label : CheatAction → String
  | .toggleCheatMode => "toggle-cheat-mode"
  | .toggleAllVisible => "toggle-all-visible"
  | .advanceReveal => "toggle-resource-reveal"
  | .toggleTakeover => "toggle-human-ai"
  | .setSpeed _ => "set-game-speed"
  | .destroyBuildings _ => "destroy-buildings"
  | .destroyAiBuildings => "destroy-ai-buildings"
  | .armageddon => "armageddon"
  | .toggleAllBuildings => "toggle-all-buildings"

end CheatCodes
