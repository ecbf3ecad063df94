import CheatCodes.Saved.Client
import CheatCodes.Summary
/-!
The JSON form of a summary, which is written and not read.
-/
namespace CheatCodes
open Json (encode)

def RevealedDeposit.toJson (d : RevealedDeposit) : Json :=
  .obj [("pt", encode d.pt), ("resource", encode d.resource)]

def PlayerSummary.toJson (p : PlayerSummary) : Json :=
  .obj [("id", encode p.id), ("nation", encode p.nation), ("state", encode p.control),
    ("buildings", .int p.buildings), ("has_hq", encode p.hasHq)]

def Summary.toJson (s : Summary) : Json :=
  .obj [("cheat_mode", encode s.cheatMode), ("all_visible", encode s.allVisible),
    ("all_buildings_enabled", encode s.allBuildings), ("resource_reveal_mode", encode s.reveal),
    ("client_state", encode s.clientState), ("frame_length", encode s.frameLength),
    ("ai_takeover", encode s.takeover), ("players", .arr (s.players.map (·.toJson))),
    ("revealed", .arr (s.revealed.map (·.toJson)))]

end CheatCodes
