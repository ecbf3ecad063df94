import CheatCodes.Proofs.Config.Tokens
import CheatCodes.Proofs.Yaml.Node
/-!
A configuration survives YAML: written and read back it is the same one, or is refused for what
its validation says. Main statement: `CheatConfig.ofYaml_toYaml`.
-/
namespace CheatCodes
open Yaml

/-! Nodes. -/

def keyNode (key : String) : Yaml.Node :=
  .scalar none none (styleOf (isSimpleKey key) key.toList) key.toList

def blockKeyNode (key : String) : Yaml.Node :=
  .scalar none none .plain key.toList

def textNode (text : String) : Yaml.Node :=
  .scalar none none (styleOf false text.toList) text.toList

def numberNode (n : Nat) : Yaml.Node :=
  .scalar none none .plain (Nat.toDigits 10 n)

def ChatTable.node (t : ChatTable) : Yaml.Node :=
  .mapping none (t.entries.map fun e => (keyNode e.1, textNode (Named.name e.2)))

def TrackerConfig.node (c : TrackerConfig) : Yaml.Node :=
  .mapping none [(keyNode "phrase", textNode c.phrase),
    (keyNode "speed_steps", numberNode c.speedSteps.toNat),
    (blockKeyNode "chat_commands", c.chatCommands.node)]

def AiInfo.node (ai : AiInfo) : Yaml.Node :=
  .mapping none [(keyNode "kind", textNode (Named.name ai.kind)),
    (keyNode "level", textNode (Named.name ai.level))]

def CheatConfig.node (c : CheatConfig) : Yaml.Node :=
  .mapping none [(blockKeyNode "tracker", c.tracker.node),
    (keyNode "base_frame_ms", numberNode c.baseFrameMs.toNat),
    (blockKeyNode "takeover_ai", c.takeoverAi.node)]

/-! The tokens of a configuration are those of its node. -/

namespace Yaml.SpellsEntries

variable {ts vs : List Token} {entries : List (Yaml.Node × Yaml.Node)} {v : Yaml.Node}

theorem field (more : SpellsEntries ts entries) (key value : String) :
    SpellsEntries (fieldTokens key value ++ ts) ((keyNode key, textNode value) :: entries) :=
  .cons (.scalar _ _) (.scalar _ _) more

theorem number (more : SpellsEntries ts entries) (key : String) (n : Nat) :
    SpellsEntries (numberTokens key n ++ ts) ((keyNode key, numberNode n) :: entries) :=
  .cons (.scalar _ _) (.scalar _ _) more

theorem block (more : SpellsEntries ts entries) (key : String) (value : Spells vs v) :
    SpellsEntries (blockTokens key vs ++ ts) ((blockKeyNode key, v) :: entries) :=
  .cons (.scalar _ _) value more

end Yaml.SpellsEntries

theorem ChatTable.spells (t : ChatTable) : Spells t.tokens t.node := by
  have lines (es : List (String × ChatCheat)) :
      SpellsEntries (es.flatMap fun e => fieldTokens e.1 (Named.name e.2))
        (es.map fun e => (keyNode e.1, textNode (Named.name e.2))) := by
    induction es with
    | nil => exact .nil
    | cons e es ih => exact ih.field e.1 (Named.name e.2)
  unfold ChatTable.tokens ChatTable.node
  cases t.entries with
  | nil => exact .braces
  | cons e es => exact .block (lines (e :: es))

theorem TrackerConfig.spells (c : TrackerConfig) : Spells c.tokens c.node := by
  have chat := SpellsEntries.nil.block "chat_commands" c.chatCommands.spells
  have steps := chat.number "speed_steps" c.speedSteps.toNat
  have record := Spells.block (steps.field "phrase" c.phrase)
  simpa only [TrackerConfig.tokens, TrackerConfig.node, List.append_assoc, List.append_nil]
    using record

theorem AiInfo.spells (ai : AiInfo) : Spells ai.tokens ai.node := by
  have level := SpellsEntries.nil.field "level" (Named.name ai.level)
  have record := Spells.block (level.field "kind" (Named.name ai.kind))
  simpa only [AiInfo.tokens, AiInfo.node, List.append_assoc, List.append_nil] using record

theorem CheatConfig.spells (c : CheatConfig) : Spells c.tokens c.node := by
  have ai := SpellsEntries.nil.block "takeover_ai" c.takeoverAi.spells
  have frame := ai.number "base_frame_ms" c.baseFrameMs.toNat
  have record := Spells.block (frame.block "tracker" c.tracker.spells)
  simpa only [CheatConfig.tokens, CheatConfig.node, List.append_assoc, List.append_nil] using record

/-! Records read from their nodes, in whatever document these are. -/

section

variable (d : Document)

@[simp] theorem text?_keyNode (key : String) : d.text? (keyNode key) = some key := by
  simp [keyNode]

@[simp] theorem text?_blockKeyNode (key : String) : d.text? (blockKeyNode key) = some key := by
  simp [blockKeyNode]

@[simp] theorem text?_textNode (text : String) : d.text? (textNode text) = some text := by
  simp [textNode]

@[simp] theorem named?_textNode {α : Type} [Named α] (a : α) :
    d.named? (textNode (Named.name a)) = some a :=
  d.named?_scalar none _ a

theorem unsigned?_numberNode {n bound : Nat} (small : n ≤ bound) :
    d.unsigned? bound (numberNode n) = some n :=
  d.unsigned?_scalar (readUnsigned_toDigits n) small none none

theorem ChatTable.ofNode?_node (t : ChatTable) : ChatTable.ofNode? d t.node = some t := by
  have keys (es : List (String × ChatCheat)) :
      d.entries? (.mapping none (es.map fun e => (keyNode e.1, textNode (Named.name e.2)))) =
        some (es.map fun e => (e.1, textNode (Named.name e.2))) := by
    induction es with
    | nil => rfl
    | cons e es ih => simp [ih]
  have cheats (es : List (String × ChatCheat)) :
      (es.map fun e => (e.1, textNode (Named.name e.2))).mapM
        (fun e => (d.named? e.2).map fun cheat => (e.1, cheat)) = some es := by
    induction es with
    | nil => rfl
    | cons e es ih =>
      rw [List.map_cons, List.mapM_cons, ih, named?_textNode]
      rfl
  simp only [ChatTable.ofNode?, ChatTable.node, keys, cheats, Option.bind_eq_bind,
    Option.bind_some, ChatTable.ofList_entries]
  rfl

theorem AiInfo.ofNode?_node (ai : AiInfo) : AiInfo.ofNode? d ai.node = some ai := by
  have fields : d.fields? ["kind", "level"] ai.node =
      some [("kind", textNode (Named.name ai.kind)), ("level", textNode (Named.name ai.level))] :=
    Document.fields?_eq (by simp [AiInfo.node]) rfl (by decide)
  simp [AiInfo.ofNode?, fields, fieldOr, List.lookup_cons]

theorem TrackerConfig.ofNode?_node (c : TrackerConfig) :
    TrackerConfig.ofNode? d c.node = some c := by
  have fields : d.fields? ["phrase", "speed_steps", "chat_commands"] c.node =
      some [("phrase", textNode c.phrase), ("speed_steps", numberNode c.speedSteps.toNat),
        ("chat_commands", c.chatCommands.node)] :=
    Document.fields?_eq (by simp [TrackerConfig.node]) rfl (by decide)
  have steps : d.unsigned? 255 (numberNode c.speedSteps.toNat) = some c.speedSteps.toNat :=
    unsigned?_numberNode d (Nat.le_of_lt_succ c.speedSteps.toNat_lt)
  simp [TrackerConfig.ofNode?, fields, fieldOr, List.lookup_cons, steps, ChatTable.ofNode?_node]

theorem CheatConfig.ofNode?_node (c : CheatConfig) : CheatConfig.ofNode? d c.node = some c := by
  have fields : d.fields? ["tracker", "base_frame_ms", "takeover_ai"] c.node =
      some [("tracker", c.tracker.node), ("base_frame_ms", numberNode c.baseFrameMs.toNat),
        ("takeover_ai", c.takeoverAi.node)] :=
    Document.fields?_eq (by simp [CheatConfig.node]) rfl (by decide)
  have frame : d.unsigned? 4294967295 (numberNode c.baseFrameMs.toNat) =
      some c.baseFrameMs.toNat :=
    unsigned?_numberNode d (Nat.le_of_lt_succ c.baseFrameMs.toNat_lt)
  simp [CheatConfig.ofNode?, fields, fieldOr, List.lookup_cons, frame,
    TrackerConfig.ofNode?_node, AiInfo.ofNode?_node]

end

/-- A configuration that is written and read back is the same one if it is usable, and is refused
for what its validation says if it is not. -/
theorem CheatConfig.ofYaml_toYaml (c : CheatConfig) :
    CheatConfig.ofYaml c.toYaml =
      match c.validate with
      | .ok () => .ok c
      | .error e => .error e := by
  have document : Document.ofChars? c.toYaml.toList = some ⟨some c.node⟩ := by
    simp [Document.ofChars?, tokens?_toYaml, Document.ofTokens?_of_spells c.spells]
  have read : CheatConfig.ofDocument? ⟨some c.node⟩ = some c := CheatConfig.ofNode?_node _ c
  have content : Text.trim c.toYaml.toList ≠ [] := by
    unfold CheatConfig.toYaml TrackerConfig.yamlLines
    rw [String.toList_ofList]
    exact Text.trim_ne_nil (c := 't') rfl _
  simp only [CheatConfig.ofYaml, content, document, read, if_false]
  cases c.validate <;> rfl

end CheatCodes
