import CheatCodes.Session
/-!
A snapshot of a game for reading: the cheats' switches, the client, the players and the deposits
that the reveal mode shows.
-/
namespace CheatCodes

structure RevealedDeposit where
  pt : Point
  resource : Resource
  deriving DecidableEq, Repr

structure PlayerSummary where
  id : PlayerId
  nation : Nation
  control : Control
  buildings : Nat
  hasHq : Bool
  deriving DecidableEq, Repr

structure Summary where
  cheatMode : Bool
  allVisible : Bool
  allBuildings : Bool
  reveal : RevealMode
  clientState : ClientState
  /-- The waiting frame length if there is one, otherwise the one in effect. -/
  frameLength : Duration
  takeover : Option AiInfo
  players : List PlayerSummary
  revealed : List RevealedDeposit
  deriving DecidableEq, Repr

namespace Game

/-- The deposits that the reveal mode shows, row by row. -/
def revealed (g : Game) : List RevealedDeposit :=
  g.world.points.filterMap fun pt =>
    match g.world.node? pt with
    | some node =>
      if 0 < node.resource.amount ∧ g.cheats.reveals node.resource.kind then
        some ⟨pt, node.resource⟩
      else none
    | none => none

end Game

def World.playerSummaries (w : World) : List PlayerSummary :=
  w.players.toList.map fun p =>
    ⟨p.id, p.nation, p.control, w.buildingCount p.id, p.hq.isSome⟩

def Game.summary (g : Game) : Summary where
  cheatMode := g.cheats.cheatMode
  allVisible := g.cheats.allVisible
  allBuildings := g.cheats.allBuildings
  reveal := g.cheats.reveal
  clientState := g.client.state
  frameLength := g.client.requested.getD g.client.frameLength
  takeover := g.client.takeover
  players := g.world.playerSummaries
  revealed := g.revealed

/-! The text of a summary. -/

def onOff (b : Bool) : String :=
  if b then "on" else "off"

def PlayerSummary.text (p : PlayerSummary) : String :=
  p.id.text ++ " [" ++ Named.name p.nation ++ ", " ++ Named.name p.control ++ "] buildings=" ++
    toString p.buildings ++ " hq=" ++ (if p.hasHq then "yes" else "no")

def RevealedDeposit.text (d : RevealedDeposit) : String :=
  d.pt.text ++ " " ++ Named.name d.resource.kind ++ " x" ++ toString d.resource.amount

def Summary.lines (s : Summary) : List String :=
  ["Cheats: mode=" ++ onOff s.cheatMode ++ " visible=" ++ onOff s.allVisible ++
      " all_buildings=" ++ onOff s.allBuildings ++ " resources=" ++ Named.name s.reveal,
    "Client: state=" ++ Named.name s.clientState ++ " frame=" ++ toString s.frameLength.millis ++
      "ms ai_takeover=" ++ onOff s.takeover.isSome] ++
  s.players.map (fun p => "  " ++ p.text) ++
  (if s.revealed.isEmpty then []
    else s!"Revealed deposits: {s.revealed.length}" :: s.revealed.map fun d => "  " ++ d.text)

def Summary.text (s : Summary) : String :=
  String.join (s.lines.map (· ++ "\n"))

end CheatCodes
