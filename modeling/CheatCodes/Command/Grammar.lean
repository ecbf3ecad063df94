import CheatCodes.Text.ControlSequence
/-!
Reading command lines. Options stand before the command or after it, each where it is declared. A
value that stands apart from its option is looked at when the next option comes or the line ends;
one that is joined to it, at once.
-/
namespace CheatCodes.Command

/-- What is wrong with a command line, or that help was asked for. -/
inductive UsageError where
  | help (text : String)
  /-- Help that nobody asked for: the line was empty. -/
  | nothingGiven (text : String)
  | missingCommand (program : String)
  | unknownCommand (name : String)
  | unexpected (argument : String)
  | valueMissing (option : String)
  | badValue (value option reason : String)
  | repeated (option : String)
  | valueUnwanted (value option : String)
  deriving DecidableEq, Repr

namespace UsageError

def worded (shown : String → String) : UsageError → String
  | .help text | .nothingGiven text => text
  | .missingCommand program =>
    "error: '" ++ program ++ "' requires a subcommand but one was not provided"
  | .unknownCommand name => "error: unrecognized subcommand '" ++ shown name ++ "'"
  | .unexpected argument => "error: unexpected argument '" ++ shown argument ++ "' found"
  | .valueMissing option =>
    "error: a value is required for '" ++ option ++ "' but none was supplied"
  | .badValue value option reason =>
    "error: invalid value '" ++ shown value ++ "' for '" ++ option ++ "': " ++ reason
  | .repeated option => "error: the argument '" ++ option ++ "' cannot be used multiple times"
  | .valueUnwanted value option =>
    "error: unexpected value '" ++ shown value ++ "' for '" ++ option ++
      "' found; no more were expected"

def message (e : UsageError) : String :=
  e.worded (Text.drawn .ends)

/-- The message as it is written to a stream. -/
def written (e : UsageError) : String :=
  e.worded (Text.drawn .suspends)

end UsageError

inductive Refusal where
  | empty
  | reason (text : String)
  deriving DecidableEq, Repr

/-- What an option does to the settings. -/
inductive Effect (σ : Type) where
  | help
  | flag (set : σ → σ)
  | once (set : String → σ → Except Refusal σ)
  | each (add : String → σ → Except Refusal σ)

structure Opt (σ : Type) where
  name : String
  letter : Option Char
  effect : Effect σ

namespace Opt

variable {σ : Type}

def takesValue (o : Opt σ) : Bool :=
  match o.effect with
  | .once _ | .each _ => true
  | .help | .flag _ => false

def shown (o : Opt σ) : String :=
  if o.takesValue then "--" ++ o.name ++ " <" ++ o.name.toUpper ++ ">" else "--" ++ o.name

end Opt

structure Grammar (σ : Type) where
  options : List (Opt σ)
  commands : List String
  help : String

structure Reading (σ : Type) where
  settings : σ
  given : List String
  /-- An option whose value is not yet looked at, and the value if it has come. -/
  pending : Option (Opt σ × Option String)

namespace Reading

variable {σ : Type}

def start (settings : σ) : Reading σ :=
  ⟨settings, [], none⟩

def isWaiting (r : Reading σ) : Bool :=
  match r.pending with
  | some (_, none) => true
  | _ => false

def accept (g : Grammar σ) (o : Opt σ) (value : Option String) (r : Reading σ) :
    Except UsageError (Reading σ) :=
  let apply (set : String → σ → Except Refusal σ) (value : String) :=
    match set value r.settings with
    | .ok settings => .ok { r with settings, given := o.name :: r.given }
    | .error .empty => .error (.valueMissing o.shown)
    | .error (.reason text) => .error (.badValue value o.shown text)
  match o.effect, value with
  | .help, _ => .error (.help g.help)
  | .flag set, _ =>
    if r.given.contains o.name then .error (.repeated o.shown)
    else .ok { r with settings := set r.settings, given := o.name :: r.given }
  | .once _, none | .each _, none => .error (.valueMissing o.shown)
  | .once set, some value =>
    if r.given.contains o.name then .error (.repeated o.shown) else apply set value
  | .each add, some value => apply add value

def resolve (g : Grammar σ) (r : Reading σ) : Except UsageError (Reading σ) :=
  match r.pending with
  | none => .ok r
  | some (o, value) => { r with pending := none }.accept g o value

def give (g : Grammar σ) (o : Opt σ) (joined : Option String) (r : Reading σ) :
    Except UsageError (Reading σ) := do
  let r ← r.resolve g
  if o.takesValue && joined.isNone then return { r with pending := some (o, none) }
  else r.accept g o joined

def long (g : Grammar σ) (text : List Char) (r : Reading σ) : Except UsageError (Reading σ) :=
  let name := String.ofList (text.takeWhile (· != '='))
  let joined : Option String :=
    match text.dropWhile (· != '=') with
    | _ :: value => some (String.ofList value)
    | [] => none
  match g.options.find? (·.name == name), joined with
  | none, _ => .error (.unexpected ("--" ++ name))
  | some o, none => r.give g o none
  | some o, some value =>
    if o.takesValue then r.give g o (some value) else .error (.valueUnwanted value o.shown)

/-- Short options after their dash; the first that takes a value takes the rest. -/
def short (g : Grammar σ) (r : Reading σ) : List Char → Except UsageError (Reading σ)
  | [] => .ok r
  | c :: cs =>
    match g.options.find? (·.letter == some c) with
    | none => .error (.unexpected (String.ofList ['-', c]))
    | some o =>
      if o.takesValue then
        match cs with
        | [] => r.give g o none
        | '=' :: value => r.give g o (some (String.ofList value))
        | value => r.give g o (some (String.ofList value))
      else do
        let r ← r.give g o none
        r.short g cs

def stray (g : Grammar σ) (argument : String) : UsageError :=
  if g.commands.isEmpty then .unexpected argument else .unknownCommand argument

/-- The arguments up to a command, which is answered with those after it. A pending value is left
to be looked at. -/
def read (g : Grammar σ) (r : Reading σ) :
    List String → Except UsageError (Reading σ × Option (String × List String))
  | [] => .ok (r, none)
  | a :: rest =>
    if !r.isWaiting && g.commands.contains a then .ok (r, some (a, rest))
    else
      match a.toList, r.pending with
      | ['-', '-'], _ =>
        match rest with
        | [] => .ok (r, none)
        | b :: _ => .error (if g.commands.contains b then .unexpected b else stray g b)
      | '-' :: '-' :: text, _ => do
        let r ← r.long g text
        r.read g rest
      | '-' :: c :: cs, _ => do
        let r ← r.short g (c :: cs)
        r.read g rest
      | _, some (o, none) => { r with pending := some (o, some a) }.read g rest
      | _, _ => .error (stray g a)

def readAll (g : Grammar σ) (settings : σ) (line : List String) : Except UsageError σ := do
  let (r, _) ← (start settings).read g line
  return (← r.resolve g).settings

end Reading

end CheatCodes.Command
