import CheatCodes.Config
import CheatCodes.Saved.Client
/-!
The JSON forms of configurations. Every missing field has its standard value.
-/
namespace CheatCodes
open Json (Codec encode decode?)

instance : Codec ChatTable where
  encode t := .obj (t.entries.map fun e => (e.1, encode e.2))
  decode?
    | .obj fields =>
      (fields.mapM fun f => (decode? f.2).map fun cheat => (f.1, cheat)).map ChatTable.ofList
    | _ => none

instance : Codec TrackerConfig where
  encode c := .obj [("phrase", encode c.phrase), ("speed_steps", encode c.speedSteps),
    ("chat_commands", encode c.chatCommands)]
  decode? j :=
    if j.isPartialRecord 3 then do
      return {
        phrase := ← j.defaulted? TrackerConfig.standard.phrase 0 "phrase"
        speedSteps := ← j.defaulted? TrackerConfig.standard.speedSteps 1 "speed_steps"
        chatCommands := ← j.defaulted? TrackerConfig.standard.chatCommands 2 "chat_commands" }
    else none

instance : Codec CheatConfig where
  encode c := .obj [("tracker", encode c.tracker), ("base_frame_ms", encode c.baseFrameMs),
    ("takeover_ai", encode c.takeoverAi)]
  decode? j :=
    if j.isPartialRecord 3 then do
      return {
        tracker := ← j.defaulted? CheatConfig.standard.tracker 0 "tracker"
        baseFrameMs := ← j.defaulted? CheatConfig.standard.baseFrameMs 1 "base_frame_ms"
        takeoverAi := ← j.defaulted? CheatConfig.standard.takeoverAi 2 "takeover_ai" }
    else none

end CheatCodes
