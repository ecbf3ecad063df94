import CheatCodes.Cheats
import CheatCodes.Recognition
/-!
A session wires the trackers to a game: what is recognised is applied at once, and answered whether
or not the game let it through.
-/
namespace CheatCodes

structure Session where
  keys : KeyTracker
  commands : ChatTable
  game : Game
  deriving DecidableEq, Repr

namespace Session

def start (config : CheatConfig) (world : World) (client : Client) : Session :=
  ⟨.ofConfig config.tracker, config.tracker.chatCommands, ⟨.ofConfig config, world, client⟩⟩

def perform (s : Session) (action : CheatAction) : Session :=
  { s with game := s.game.perform action }

def performAny (s : Session) : Option CheatAction → Session
  | some action => s.perform action
  | none => s

def onKey (s : Session) (e : KeyEvent) : Option CheatAction × Session :=
  let (action, keys) := s.keys.track e
  (action, { s with keys }.performAny action)

def onChat (s : Session) (line : String) : Option CheatAction × Session :=
  let action := s.commands.track line
  (action, s.performAny action)

def place (s : Session) (pt : Point) (p : PlayerId) : Except PlacementError Unit × Session :=
  let (answer, game) := s.game.place pt p
  (answer, { s with game })

inductive Step where
  | key (e : KeyEvent)
  | chat (line : String)
  | action (a : CheatAction)
  | place (pt : Point) (p : PlayerId)
  deriving DecidableEq, Repr

/-- The session after one step, whatever the answer. -/
def step (s : Session) : Step → Session
  | .key e => (s.onKey e).2
  | .chat line => (s.onChat line).2
  | .action a => s.perform a
  | .place pt p => (s.place pt p).2

def run (s : Session) (steps : List Step) : Session :=
  steps.foldl step s

@[simp] theorem run_nil (s : Session) : s.run [] = s := rfl

@[simp] theorem run_cons (s : Session) (a : Step) (steps : List Step) :
    s.run (a :: steps) = (s.step a).run steps := rfl

end Session

end CheatCodes
