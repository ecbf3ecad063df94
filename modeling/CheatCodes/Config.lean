import CheatCodes.Chat
import CheatCodes.Client
/-!
What the cheats listen for and how they act. A configuration is usable when it validates; the
first rule that fails is reported.
-/
namespace CheatCodes

structure TrackerConfig where
  phrase : String
  /-- How many speed steps Alt and a digit select, from Alt+1. -/
  speedSteps : UInt8
  chatCommands : ChatTable
  deriving DecidableEq, Repr

def TrackerConfig.standard : TrackerConfig where
  phrase := "winter"
  speedSteps := 6
  chatCommands := .ofList
    [("apocalypsis", .armageddon), ("impulse9", .enableAllBuildings)]

structure CheatConfig where
  tracker : TrackerConfig
  /-- The frame length at speed step 0 in milliseconds. -/
  baseFrameMs : UInt32
  takeoverAi : AiInfo
  deriving DecidableEq, Repr

def CheatConfig.standard : CheatConfig :=
  ⟨.standard, 50, .standard⟩

inductive FileError where
  | notFound
  | notDirectory
  | isDirectory
  | nameTooLong
  | notUtf8
  | refused (text : String)
  deriving DecidableEq, Repr

def FileError.message : FileError → String
  | .notFound => "No such file or directory (os error 2)"
  | .notDirectory => "Not a directory (os error 20)"
  | .isDirectory => "Is a directory (os error 21)"
  | .nameTooLong => "File name too long (os error 36)"
  | .notUtf8 => "stream did not contain valid UTF-8"
  | .refused text => text

inductive ConfigError where
  | file (cause : FileError)
  | yaml (cause : String)
  | emptyPhrase
  | speedSteps (steps : UInt8)
  | zeroFrameLength
  deriving DecidableEq, Repr

namespace ConfigError

def message : ConfigError → String
  | .file cause => "IO error: " ++ cause.message
  | .yaml cause => "YAML error: " ++ cause
  | .emptyPhrase => "cheat phrase must not be empty"
  | .speedSteps steps => s!"speed steps must be between 1 and 9, got {steps}"
  | .zeroFrameLength => "base frame length must be at least 1 ms"

def chain (e : ConfigError) : List String :=
  match e with
  | .file cause => [e.message, cause.message]
  | .yaml cause => [e.message, cause]
  | _ => [e.message]

end ConfigError

namespace CheatConfig

/-- Speed steps are typed as Alt+1 to Alt+9. -/
def maxSpeedSteps : UInt8 := 9

def validate (c : CheatConfig) : Except ConfigError Unit :=
  if c.tracker.phrase = "" then .error .emptyPhrase
  else if c.tracker.speedSteps < 1 ∨ maxSpeedSteps < c.tracker.speedSteps then
    .error (.speedSteps c.tracker.speedSteps)
  else if c.baseFrameMs = 0 then .error .zeroFrameLength
  else .ok ()

/-- Milliseconds per frame at a speed step: halved at each step, never less than one. -/
def frameMs (c : CheatConfig) (step : UInt8) : UInt32 :=
  max (if step < 32 then c.baseFrameMs >>> step.toUInt32 else 0) 1

def frameLength (c : CheatConfig) (step : UInt8) : Duration :=
  .ofMillis (c.frameMs step)

end CheatConfig

end CheatCodes
