import CheatCodes.Client
import CheatCodes.Saved.World
/-!
The JSON forms of a client and of what it refers to. A computer player's fields have values of
their own when they are missing; lengths of time admit no other fields.
-/
namespace CheatCodes
open Json (Codec encode decode?)

instance : Codec AiInfo where
  encode ai := .obj [("kind", encode ai.kind), ("level", encode ai.level)]
  decode? j :=
    if j.isPartialRecord 2 then do
      return {
        kind := ← j.defaulted? AiInfo.standard.kind 0 "kind"
        level := ← j.defaulted? AiInfo.standard.level 1 "level" }
    else none

instance : Codec Duration where
  encode d := .obj [("secs", .int d.secs), ("nanos", .int d.nanos)]
  decode? j :=
    if j.isRecord 2 && j.hasOnly ["secs", "nanos"] then do
      let secs : UInt64 ← j.required? 0 "secs"
      let nanos : UInt32 ← j.required? 1 "nanos"
      Duration.ofParts? secs.toNat nanos.toNat
    else none

instance : Codec Client where
  encode c := .obj [("state", encode c.state), ("replay_mode", encode c.replay),
    ("local_player", encode c.localPlayer), ("frame_length", encode c.frameLength),
    ("requested_frame_length", encode c.requested), ("ai_takeover", encode c.takeover)]
  decode? j :=
    if j.isRecord 6 then do
      return {
        state := ← j.required? 0 "state"
        replay := ← j.required? 1 "replay_mode"
        localPlayer := ← j.required? 2 "local_player"
        frameLength := ← j.required? 3 "frame_length"
        requested := ← j.optional? 4 "requested_frame_length"
        takeover := ← j.optional? 5 "ai_takeover" }
    else none

end CheatCodes
