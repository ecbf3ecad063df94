import CheatCodes.Config
import CheatCodes.Text.Blank
import CheatCodes.Yaml.Written
/-!
Configurations as YAML. A missing field has its standard value at every level, and a blank file is
the standard configuration; what is read from a file is validated.
-/
namespace CheatCodes
open Yaml

def fieldOr {α : Type} (standard : α) (read : Yaml.Node → Option α)
    (fields : List (String × Yaml.Node)) (name : String) : Option α :=
  match fields.lookup name with
  | some n => read n
  | none => some standard

def AiInfo.ofNode? (d : Document) (n : Yaml.Node) : Option AiInfo := do
  let fields ← d.fields? ["kind", "level"] n
  return {
    kind := ← fieldOr AiInfo.standard.kind d.named? fields "kind"
    level := ← fieldOr AiInfo.standard.level d.named? fields "level" }

def ChatTable.ofNode? (d : Document) (n : Yaml.Node) : Option ChatTable := do
  let entries ← d.entries? n
  return .ofList (← entries.mapM fun e => (d.named? e.2).map fun cheat => (e.1, cheat))

def TrackerConfig.ofNode? (d : Document) (n : Yaml.Node) : Option TrackerConfig := do
  let fields ← d.fields? ["phrase", "speed_steps", "chat_commands"] n
  let steps n := (d.unsigned? 255 n).map Nat.toUInt8
  return {
    phrase := ← fieldOr TrackerConfig.standard.phrase d.text? fields "phrase"
    speedSteps := ← fieldOr TrackerConfig.standard.speedSteps steps fields "speed_steps"
    chatCommands := ← fieldOr TrackerConfig.standard.chatCommands (ChatTable.ofNode? d) fields
      "chat_commands" }

namespace CheatConfig

def ofNode? (d : Document) (n : Yaml.Node) : Option CheatConfig := do
  let fields ← d.fields? ["tracker", "base_frame_ms", "takeover_ai"] n
  let ms n := (d.unsigned? 4294967295 n).map Nat.toUInt32
  return {
    tracker := ← fieldOr CheatConfig.standard.tracker (TrackerConfig.ofNode? d) fields "tracker"
    baseFrameMs := ← fieldOr CheatConfig.standard.baseFrameMs ms fields "base_frame_ms"
    takeoverAi := ← fieldOr CheatConfig.standard.takeoverAi (AiInfo.ofNode? d) fields
      "takeover_ai" }

/-- An empty stream has no field. -/
def ofDocument? (d : Document) : Option CheatConfig :=
  match d.root with
  | some n => ofNode? d n
  | none => some .standard

def ofYaml (text : String) : Except ConfigError CheatConfig :=
  if Text.trim text.toList = [] then .ok .standard
  else
    match Document.ofChars? text.toList with
    | none => .error (.yaml "not a single well-formed document")
    | some d =>
      match ofDocument? d with
      | none => .error (.yaml "not a configuration")
      | some c => c.validate.map fun _ => c

/-- The configuration in a file's contents, which must be UTF-8. -/
def ofFile (contents : Except FileError ByteArray) : Except ConfigError CheatConfig :=
  match contents with
  | .error cause => .error (.file cause)
  | .ok bytes =>
    match String.fromUTF8? bytes with
    | some text => ofYaml text
    | none => .error (.file .notUtf8)

end CheatConfig

/-! Writing. -/

def ChatTable.yamlLines (t : ChatTable) : List Char :=
  if t.entries.isEmpty then "  chat_commands: \x7b\x7d\n".toList
  else
    "  chat_commands:\n".toList ++ t.entries.flatMap fun e =>
      writeEntry 4 e.1 (writeScalar false 6 (Named.name e.2).toList)

def TrackerConfig.yamlLines (c : TrackerConfig) : List Char :=
  "tracker:\n".toList ++ writeEntry 2 "phrase" (writeScalar false 4 c.phrase.toList) ++
    writeEntry 2 "speed_steps" (toString c.speedSteps).toList ++ c.chatCommands.yamlLines

def AiInfo.yamlLines (ai : AiInfo) : List Char :=
  "takeover_ai:\n".toList ++
    writeEntry 2 "kind" (writeScalar false 4 (Named.name ai.kind).toList) ++
    writeEntry 2 "level" (writeScalar false 4 (Named.name ai.level).toList)

def CheatConfig.toYaml (c : CheatConfig) : String :=
  String.ofList (c.tracker.yamlLines ++
    writeEntry 0 "base_frame_ms" (toString c.baseFrameMs).toList ++ c.takeoverAi.yamlLines)

end CheatCodes
