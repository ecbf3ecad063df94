import CheatCodes.Command.Arguments
import CheatCodes.Command.Reference
import CheatCodes.Config.Yaml
import CheatCodes.Json.Text
import CheatCodes.Key.Script
import CheatCodes.Saved.Summary
/-!
Whole runs of the program: what it prints and how it ends. A failure is reported with its causes,
which are numbered when there are several.
-/
namespace CheatCodes.Command

structure Outcome where
  code : UInt8
  output : String
  errors : String
  deriving DecidableEq, Repr

def Outcome.success (output : String) : Outcome := ⟨0, output, ""⟩

def causeLines : List String → List String
  | [] => []
  | [cause] => ["    " ++ cause]
  | causes => causes.zipIdx.map fun (cause, i) => "    " ++ toString i ++ ": " ++ cause

def report (message : String) (causes : List String) : String :=
  "Error: " ++ message ++ "\n" ++
    if causes.isEmpty then ""
    else "\nCaused by:\n" ++ String.join ((causeLines causes).map (· ++ "\n"))

def Outcome.failure (message : String) (causes : List String) : Outcome :=
  ⟨1, "", report message causes⟩

/-- Help that was asked for goes to the output. -/
def Outcome.ofUsage : UsageError → Outcome
  | .help text => ⟨0, text, ""⟩
  | .nothingGiven text => ⟨2, "", text⟩
  | e => ⟨2, "", e.written ++ "\n"⟩

def infoText (c : CheatConfig) : String :=
  "skirmish-cli v0.1.0\n" ++
  "cheat phrase: " ++ c.tracker.phrase ++ "\n" ++
  "speed steps: " ++ toString c.tracker.speedSteps ++ "\n" ++
  "chat commands: " ++ ", ".intercalate c.tracker.chatCommands.lines ++ "\n"

inductive PlayError where
  | layout (cause : LayoutError)
  | script (cause : KeyError)
  deriving DecidableEq, Repr

def PlayError.message : PlayError → String
  | .layout cause => cause.message
  | .script cause => cause.message

/-- The steps of a played session: the keys, then the chat lines, then the placements. -/
def Play.steps (p : Play) (keys : List KeyEvent) : List Session.Step :=
  keys.map .key ++ p.chat.map .chat ++ p.places.map fun pt => .place pt ⟨0⟩

def Play.run (p : Play) (config : CheatConfig) : Except PlayError Summary := do
  let world ← (Reference.world p.size p.humans p.ai).mapError .layout
  let world := p.deposits.foldl (fun w d => w.setResource d.pt d.resource) world
  let keys ← (Script.read p.keys.toList).mapError .script
  let client := { Client.inGame ⟨0⟩ with replay := p.replay }
  let game := ((Session.start config world client).run (p.steps keys)).game
  return { game with client := game.client.commit.2 }.summary

def perform (config : CheatConfig) : Task → Outcome
  | .info => .success (infoText config)
  | .config => .success config.toYaml
  | .play options =>
    match options.run config with
    | .error e => .failure e.message []
    | .ok summary =>
      .success (if options.json then summary.toJson.indented 0 ++ "\n" else summary.text)

/-- The outcome of a line of arguments, with what the file system holds at a path. -/
def run (line : List String) (contents : String → Except FileError ByteArray) : Outcome :=
  match Arguments.read line with
  | .error e => .ofUsage e
  | .ok args =>
    match args.config with
    | none => perform .standard args.task
    | some path =>
      match CheatConfig.ofFile (contents path) with
      | .ok config => perform config args.task
      | .error e => .failure ("loading config " ++ path) e.chain

end CheatCodes.Command
