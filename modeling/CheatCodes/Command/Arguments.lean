import CheatCodes.Command.Grammar
import CheatCodes.Command.Place
/-!
The program's command line: `info`, `config` and `play`, with the options of each.
-/
namespace CheatCodes.Command

def programName : String := "skirmish-cli"

structure Play where
  keys : String
  chat : List String
  places : List Point
  deposits : List Deposit
  humans : UInt8
  ai : UInt8
  size : UInt16
  replay : Bool
  json : Bool
  deriving DecidableEq, Repr

def Play.standard : Play :=
  ⟨"", [], [], [], 1, 1, 64, false, false⟩

inductive Task where
  | info
  | config
  | play (options : Play)
  deriving DecidableEq, Repr

structure Arguments where
  verbose : Bool
  config : Option String
  task : Task
  deriving DecidableEq, Repr

/-! Values. -/

/-- A number of at most `bound`, read as one of 64 bits first. -/
def readBounded (bound : Nat) (value : String) : Except Refusal Nat :=
  match Text.readInteger (Nat.pow 2 63) (Nat.pow 2 63 - 1) value.toList with
  | .error cause => .error (.reason cause.message)
  | .ok n =>
    if 0 ≤ n ∧ n ≤ bound then .ok n.toNat
    else .error (.reason (toString n ++ " is not in 0..=" ++ toString bound))

def readPath (value : String) : Except Refusal String :=
  if value.isEmpty then .error .empty else .ok value

def readPoint (value : String) : Except Refusal Point :=
  (Point.read value.toList).mapError (.reason ·.message)

def readDeposit (value : String) : Except Refusal Deposit :=
  (Deposit.read value.toList).mapError (.reason ·.message)

/-! Options. -/

structure Common where
  verbose : Bool
  config : Option String
  deriving DecidableEq, Repr

def helpOption {σ : Type} : Opt σ := ⟨"help", some 'h', .help⟩

def commonHelp : String :=
  "CLI tool for skirmish cheat sessions\n\n" ++
  "Usage: skirmish-cli [OPTIONS] <COMMAND>\n\n" ++
  "Commands:\n" ++
  "  info    Print version and crate info\n" ++
  "  config  Print the effective cheat configuration as YAML\n" ++
  "  play    Run a scripted cheat session against a reference world\n" ++
  "  help    Print this message or the help of the given subcommand(s)\n\n" ++
  "Options:\n" ++
  "  -v, --verbose          Enable verbose logging\n" ++
  "  -c, --config <CONFIG>  Cheat configuration file (YAML)\n" ++
  "  -h, --help             Print help\n"

def bareHelp (about name : String) : String :=
  about ++ "\n\nUsage: skirmish-cli " ++ name ++ "\n\nOptions:\n  -h, --help  Print help\n"

def infoHelp : String := bareHelp "Print version and crate info" "info"

def configHelp : String := bareHelp "Print the effective cheat configuration as YAML" "config"

def helpHelp : String :=
  "Print this message or the help of the given subcommand(s)\n\n" ++
  "Usage: skirmish-cli help [COMMAND]...\n\n" ++
  "Arguments:\n" ++
  "  [COMMAND]...  Print help for the subcommand(s)\n"

def playHelp : String :=
  "Run a scripted cheat session against a reference world\n\n" ++
  "Usage: skirmish-cli play [OPTIONS]\n\n" ++
  "Options:\n" ++
  "  -k, --keys <KEYS>          Key script, e.g. \"winter <F7> <Alt+3> <Ctrl+Shift+F2>\" " ++
  "[default: ]\n" ++
  "      --chat <CHAT>          Chat lines sent after the key script\n" ++
  "      --place <PLACE>        Place a cheat headquarters for player 0 at \"x,y\"\n" ++
  "      --resource <RESOURCE>  Bury a deposit before the script runs, as " ++
  "\"x,y,kind,amount\"\n" ++
  "      --humans <HUMANS>      Number of human players [default: 1]\n" ++
  "      --ai <AI>              Number of AI players [default: 1]\n" ++
  "      --size <SIZE>          Map width and height in nodes [default: 64]\n" ++
  "      --replay               Pretend the game is a replay\n" ++
  "      --json                 Print the final state as JSON\n" ++
  "  -h, --help                 Print help\n"

def commonGrammar : Grammar Common where
  options := [
    ⟨"verbose", some 'v', .flag fun c => { c with verbose := true }⟩,
    ⟨"config", some 'c', .once fun value c => do
      return { c with config := some (← readPath value) }⟩,
    helpOption]
  commands := ["info", "config", "play", "help"]
  help := commonHelp

def infoGrammar : Grammar Unit := ⟨[helpOption], [], infoHelp⟩

def configGrammar : Grammar Unit := ⟨[helpOption], [], configHelp⟩

def playGrammar : Grammar Play where
  options := [
    ⟨"keys", some 'k', .once fun value p => .ok { p with keys := value }⟩,
    ⟨"chat", none, .each fun value p => .ok { p with chat := p.chat ++ [value] }⟩,
    ⟨"place", none, .each fun value p => do
      return { p with places := p.places ++ [← readPoint value] }⟩,
    ⟨"resource", none, .each fun value p => do
      return { p with deposits := p.deposits ++ [← readDeposit value] }⟩,
    ⟨"humans", none, .once fun value p => do
      return { p with humans := (← readBounded 255 value).toUInt8 }⟩,
    ⟨"ai", none, .once fun value p => do
      return { p with ai := (← readBounded 255 value).toUInt8 }⟩,
    ⟨"size", none, .once fun value p => do
      return { p with size := (← readBounded 65535 value).toUInt16 }⟩,
    ⟨"replay", none, .flag fun p => { p with replay := true }⟩,
    ⟨"json", none, .flag fun p => { p with json := true }⟩,
    helpOption]
  commands := []
  help := playHelp

/-! The line. -/

def helpOn : List String → UsageError
  | [] => .help commonHelp
  | name :: rest =>
    let text? : Option String :=
      match name with
      | "info" => some infoHelp
      | "config" => some configHelp
      | "play" => some playHelp
      | "help" => some helpHelp
      | _ => none
    match text?, rest with
    | none, _ => .unknownCommand name
    | some text, [] => .help text
    | some _, other :: _ => .unknownCommand other

def readTask (name : String) (line : List String) : Except UsageError Task :=
  match name with
  | "info" => (Reading.readAll infoGrammar () line).map fun _ => .info
  | "config" => (Reading.readAll configGrammar () line).map fun _ => .config
  | "play" => (Reading.readAll playGrammar .standard line).map .play
  | _ => .error (helpOn line)

/-- The arguments of a line. What is wrong after the command comes before a pending value. -/
def Arguments.read (line : List String) : Except UsageError Arguments := do
  let (r, rest) ← (Reading.start ⟨false, none⟩).read commonGrammar line
  match rest with
  | some (name, rest) =>
    let task ← readTask name rest
    let common := (← r.resolve commonGrammar).settings
    return ⟨common.verbose, common.config, task⟩
  | none =>
    let r ← r.resolve commonGrammar
    if r.given.isEmpty then .error (.nothingGiven commonHelp)
    else .error (.missingCommand programName)

end CheatCodes.Command
