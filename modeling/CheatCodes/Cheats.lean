import CheatCodes.Config
import CheatCodes.World.Settlement
/-!
Cheat mode and what it unlocks. Only a single human can switch it; while it is off the gated cheats
change nothing. The reveal mode is remembered meanwhile and shows again afterwards.
-/
namespace CheatCodes

/-- Which resources the map shows; each mode includes the ones before it. -/
inductive RevealMode where
  | nothing
  | ores
  | fish
  | water
  deriving DecidableEq, Repr, Inhabited

namespace RevealMode

instance : Named RevealMode where
  members := [.nothing, .ores, .fish, .water]
  name
    | .nothing => "Nothing"
    | .ores => "Ores"
    | .fish => "Fish"
    | .water => "Water"
  find_name a := by cases a <;> rfl

def next : RevealMode → RevealMode
  | .nothing => .ores
  | .ores => .fish
  | .fish => .water
  | .water => .nothing

def shows : RevealMode → ResourceKind → Bool
  | .nothing, _ => false
  | .ores, kind => kind.isOre
  | .fish, kind => kind.isOre || kind = .fish
  | .water, kind => kind.isOre || kind = .fish || kind = .water

end RevealMode

inductive PlacementError where
  | cheatModeOff
  | owned (pt : Point)
  | nearBorder (pt : Point)
  | quality (pt : Point) (allowed : Quality)
  | unknownPlayer (p : PlayerId)
  deriving DecidableEq, Repr

def PlacementError.message : PlacementError → String
  | .cheatModeOff => "cheat mode is off"
  | .owned pt => pt.text ++ " is already owned"
  | .nearBorder pt => pt.text ++ " is next to a border"
  | .quality pt allowed => pt.text ++ " only allows " ++ Named.name allowed
  | .unknownPlayer p => p.text ++ " does not exist"

structure Cheats where
  config : CheatConfig
  cheatMode : Bool
  allVisible : Bool
  allBuildings : Bool
  /-- The reveal mode, also while cheat mode is off. -/
  storedReveal : RevealMode
  deriving DecidableEq, Repr

/-! Changes that may be refused part of the way. -/

section

variable {ε σ α β : Type} (s : σ)

theorem run_get_bind (f : σ → ExceptT ε (StateM σ) β) :
    (get >>= f).run.run s = (f s).run.run s := rfl

theorem run_lift_bind (x : Except ε α) (f : α → ExceptT ε (StateM σ) β) :
    (liftM x >>= f).run.run s =
      match x with
      | .ok a => (f a).run.run s
      | .error e => (.error e, s) := by
  cases x <;> rfl

end

namespace Cheats

def ofConfig (config : CheatConfig) : Cheats :=
  ⟨config, false, false, false, .nothing⟩

def reveal (c : Cheats) : RevealMode :=
  if c.cheatMode then c.storedReveal else .nothing

def reveals (c : Cheats) (kind : ResourceKind) : Bool :=
  c.reveal.shows kind

/-- A cheat headquarters wants an unowned node with unowned neighbours that allows a hut. -/
def check (c : Cheats) (w : World) (pt : Point) : Except PlacementError Unit :=
  if !c.cheatMode then .error .cheatModeOff
  else if (w.owner? pt).isSome then .error (.owned pt)
  else if (w.neighbours pt).any fun near => (w.owner? near).isSome then .error (.nearBorder pt)
  else if w.quality pt < .hut then .error (.quality pt (w.quality pt))
  else .ok ()

/-- Puts a headquarters for a player in the place of what stood there; it is a tent if the
player's headquarters is one. What is changed before a refusal stays changed. -/
def placing (c : Cheats) (pt : Point) (p : PlayerId) :
    ExceptT PlacementError (StateM World) Unit := do
  c.check (← get) pt
  match (← get).nation? p with
  | none => throw (.unknownPlayer p)
  | some nation =>
    let isTent := (← get).hqIsTent p
    modify (·.destroyObject pt)
    modify (·.createBuilding pt ⟨.headquarters, p, nation, isTent⟩)

def place (c : Cheats) (w : World) (pt : Point) (p : PlayerId) :
    Except PlacementError Unit × World :=
  (c.placing pt p).run.run w

variable {c : Cheats} {w : World} {pt : Point} {p : PlayerId}

theorem place_of_check {e : PlacementError} (against : c.check w pt = .error e) :
    c.place w pt p = (.error e, w) := by
  rw [place, placing, run_get_bind, run_lift_bind, against]

theorem place_of_unknown (allowed : c.check w pt = .ok ()) (unknown : w.nation? p = none) :
    c.place w pt p = (.error (.unknownPlayer p), w) := by
  rw [place, placing, run_get_bind, run_lift_bind, allowed]
  dsimp only
  rw [run_get_bind, unknown]
  rfl

theorem place_of_known {nation : Nation} (allowed : c.check w pt = .ok ())
    (known : w.nation? p = some nation) :
    c.place w pt p = (.ok (),
      (w.destroyObject pt).createBuilding pt ⟨.headquarters, p, nation, w.hqIsTent p⟩) := by
  rw [place, placing, run_get_bind, run_lift_bind, allowed]
  dsimp only
  rw [run_get_bind, known]
  rfl

/-- Nothing has been changed when a placement is refused. -/
theorem place_of_error {e : PlacementError} (refused : (c.place w pt p).1 = .error e) :
    (c.place w pt p).2 = w := by
  cases verdict : c.check w pt with
  | error e => rw [place_of_check verdict]
  | ok _ =>
    cases found : w.nation? p with
    | none => rw [place_of_unknown verdict found]
    | some nation =>
      rw [place_of_known verdict found] at refused
      cases refused

end Cheats

structure Game where
  cheats : Cheats
  world : World
  client : Client
  deriving DecidableEq, Repr

namespace Game

def toggleCheatMode (g : Game) : Game :=
  if g.world.isSinglePlayer then { g with cheats.cheatMode := !g.cheats.cheatMode } else g

def toggleAllVisible (g : Game) : Game :=
  if g.cheats.cheatMode then
    { g with cheats.allVisible := !g.cheats.allVisible, world := g.world.notifyVisibility }
  else g

/-- Advances the stored reveal mode, whether cheat mode is on or off. -/
def advanceReveal (g : Game) : Game :=
  { g with cheats.storedReveal := g.cheats.storedReveal.next }

def toggleAllBuildings (g : Game) : Game :=
  if g.cheats.cheatMode then { g with cheats.allBuildings := !g.cheats.allBuildings } else g

def setSpeed (g : Game) (step : UInt8) : Game :=
  if g.cheats.cheatMode ∧ step < g.cheats.config.tracker.speedSteps then
    { g with client := g.client.requestFrameLength (g.cheats.config.frameLength step) }
  else g

/-- Only in a running game that is no replay. -/
def toggleTakeover (g : Game) : Game :=
  if g.cheats.cheatMode ∧ g.client.state = .game ∧ g.client.replay = false then
    { g with client := g.client.toggleTakeover g.cheats.config.takeoverAi }
  else g

def destroyBuildings (g : Game) (players : PlayerSet) : Game :=
  if g.cheats.cheatMode then
    { g with world := players.ids.foldl (fun w p => (w.destroyBuildingsOf p).2) g.world }
  else g

def destroyAiBuildings (g : Game) : Game :=
  g.destroyBuildings (g.world.playersWhere (· = .ai))

def armageddon (g : Game) : Game :=
  g.destroyBuildings (g.world.playersWhere fun _ => true)

def place (g : Game) (pt : Point) (p : PlayerId) : Except PlacementError Unit × Game :=
  let (answer, world) := g.cheats.place g.world pt p
  (answer, { g with world })

theorem place_of_error {g : Game} {pt : Point} {p : PlayerId} {e : PlacementError}
    (refused : (g.place pt p).1 = .error e) : (g.place pt p).2 = g :=
  congrArg (fun world => { g with world }) (Cheats.place_of_error refused)

def perform (g : Game) : CheatAction → Game
  | .toggleCheatMode => g.toggleCheatMode
  | .toggleAllVisible => g.toggleAllVisible
  | .advanceReveal => g.advanceReveal
  | .toggleTakeover => g.toggleTakeover
  | .setSpeed step => g.setSpeed step
  | .destroyBuildings players => g.destroyBuildings players
  | .destroyAiBuildings => g.destroyAiBuildings
  | .armageddon => g.armageddon
  | .toggleAllBuildings => g.toggleAllBuildings

end Game

end CheatCodes
