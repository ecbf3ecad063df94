import CheatCodes.Duration
import CheatCodes.Player
/-!
A client of a local game. A requested frame length waits until it is committed; the local player
may be handed to a computer player and taken back.
-/
namespace CheatCodes

inductive AiKind where
  | dummy
  | default
  deriving DecidableEq, Repr, Inhabited

instance : Named AiKind where
  members := [.dummy, .default]
  name
    | .dummy => "Dummy"
    | .default => "Default"
  find_name a := by cases a <;> rfl

inductive AiLevel where
  | easy
  | medium
  | hard
  deriving DecidableEq, Repr, Inhabited

instance : Named AiLevel where
  members := [.easy, .medium, .hard]
  name
    | .easy => "Easy"
    | .medium => "Medium"
    | .hard => "Hard"
  find_name a := by cases a <;> rfl

structure AiInfo where
  kind : AiKind
  level : AiLevel
  deriving DecidableEq, Repr, Inhabited

def AiInfo.standard : AiInfo := ⟨.default, .hard⟩

inductive ClientState where
  | stopped
  | connect
  | config
  | loading
  | loaded
  | game
  deriving DecidableEq, Repr, Inhabited

instance : Named ClientState where
  members := [.stopped, .connect, .config, .loading, .loaded, .game]
  name
    | .stopped => "Stopped"
    | .connect => "Connect"
    | .config => "Config"
    | .loading => "Loading"
    | .loaded => "Loaded"
    | .game => "Game"
  find_name a := by cases a <;> rfl

structure Client where
  state : ClientState
  replay : Bool
  localPlayer : PlayerId
  frameLength : Duration
  requested : Option Duration
  takeover : Option AiInfo
  deriving DecidableEq, Repr

namespace Client

def fresh : Client :=
  ⟨.stopped, false, ⟨0⟩, .ofMillis 50, none, none⟩

def inGame (p : PlayerId) : Client :=
  { fresh with state := .game, localPlayer := p }

def requestFrameLength (c : Client) (length : Duration) : Client :=
  { c with requested := some length }

/-- Puts a waiting frame length into effect and answers the one now in effect. -/
def commit (c : Client) : Duration × Client :=
  let length := c.requested.getD c.frameLength
  (length, { c with frameLength := length, requested := none })

def toggleTakeover (c : Client) (ai : AiInfo) : Client :=
  { c with takeover := if c.takeover.isSome then none else some ai }

end Client

end CheatCodes
