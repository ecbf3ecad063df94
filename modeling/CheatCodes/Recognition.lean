import CheatCodes.Config
import CheatCodes.Key.Event
import CheatCodes.Phrase
/-!
Recognising cheats among key presses. Keys that type nothing come first, then the speed chords,
then the phrase; the first two make a started phrase begin again.
-/
namespace CheatCodes

structure KeyTracker where
  matcher : PhraseMatcher
  speedSteps : UInt8
  deriving DecidableEq, Repr

namespace KeyTracker

def ofConfig (c : TrackerConfig) : KeyTracker :=
  ⟨.ofPhrase c.phrase, c.speedSteps⟩

def progress (t : KeyTracker) : Nat :=
  t.matcher.progress

def reset (t : KeyTracker) : KeyTracker :=
  { t with matcher := t.matcher.reset }

/-- How many players the first function keys address. -/
def playerKeys : Nat := 8

def specialAction (e : KeyEvent) : Option CheatAction :=
  if e.ctrl && e.shift then
    match e.kind.functionIndex? with
    | some i =>
      if i < playerKeys then some (.destroyBuildings (.singleton ⟨i.toUInt8⟩))
      else if i = playerKeys then some .destroyAiBuildings
      else none
    | none => none
  else
    match e.kind with
    | .f7 => some (if e.alt then .advanceReveal else .toggleAllVisible)
    | .f10 => some .toggleTakeover
    | _ => none

/-- Alt+1 is step 0, Alt+2 is step 1, up to the number of steps. -/
def speedStep? (steps : UInt8) (e : KeyEvent) : Option UInt8 :=
  if e.alt then
    match Text.digit? e.c with
    | some (n + 1) => if n < steps.toNat then some n.toUInt8 else none
    | _ => none
  else none

def track (t : KeyTracker) (e : KeyEvent) : Option CheatAction × KeyTracker :=
  if e.isChar then
    match speedStep? t.speedSteps e with
    | some step => (some (.setSpeed step), t.reset)
    | none =>
      let (completed, matcher) := t.matcher.type e.c
      (if completed then some .toggleCheatMode else none, { t with matcher })
  else (specialAction e, t.reset)

def trackAll (t : KeyTracker) : List KeyEvent → List (Option CheatAction) × KeyTracker
  | [] => ([], t)
  | e :: es =>
    let (action, t) := t.track e
    let (actions, t) := t.trackAll es
    (action :: actions, t)

end KeyTracker

end CheatCodes
