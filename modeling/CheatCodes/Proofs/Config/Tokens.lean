import CheatCodes.Config.Yaml
import CheatCodes.Proofs.Yaml.Number
import CheatCodes.Proofs.Yaml.Stream
/-!
The tokens of a written configuration. Main statement: `tokens?_toYaml`.
-/
namespace CheatCodes
open Yaml

/-! The tokens of a configuration. -/

def fieldTokens (key value : String) : List Token :=
  [.key, .scalar (styleOf (isSimpleKey key) key.toList) key.toList, .value,
    .scalar (styleOf false value.toList) value.toList]

def numberTokens (key : String) (n : Nat) : List Token :=
  [.key, .scalar (styleOf (isSimpleKey key) key.toList) key.toList, .value,
    .scalar .plain (Nat.toDigits 10 n)]

def blockTokens (key : String) (value : List Token) : List Token :=
  .key :: .scalar .plain key.toList :: .value :: value

def ChatTable.tokens (t : ChatTable) : List Token :=
  if t.entries.isEmpty then [.flowMappingStart, .flowMappingEnd]
  else
    .mappingStart ::
      (t.entries.flatMap (fun e => fieldTokens e.1 (Named.name e.2)) ++ [.blockEnd])

def TrackerConfig.tokens (c : TrackerConfig) : List Token :=
  .mappingStart :: (fieldTokens "phrase" c.phrase ++
    numberTokens "speed_steps" c.speedSteps.toNat ++
    blockTokens "chat_commands" c.chatCommands.tokens ++ [.blockEnd])

def AiInfo.tokens (ai : AiInfo) : List Token :=
  .mappingStart :: (fieldTokens "kind" (Named.name ai.kind) ++
    fieldTokens "level" (Named.name ai.level) ++ [.blockEnd])

def CheatConfig.tokens (c : CheatConfig) : List Token :=
  .mappingStart :: (blockTokens "tracker" c.tracker.tokens ++
    numberTokens "base_frame_ms" c.baseFrameMs.toNat ++
    blockTokens "takeover_ai" c.takeoverAi.tokens ++ [.blockEnd])

theorem toList_toString (n : Nat) : (toString n).toList = Nat.toDigits 10 n :=
  Nat.toList_repr

/-! Lines, from the last one up: each statement is about the text from a line to the end. -/

section

variable {bound column level : Nat} {levels inner : List Nat} {opening ts : List Token}
  {more : List Char}

theorem Yaml.Lines.field (lines : Lines (column + 1) (column + 1) inner more ts)
    (enters : Enters column level levels opening inner) (left : column < bound)
    (key value : String) :
    Lines bound level levels
      (writeEntry column key (writeScalar false (column + 2) value.toList) ++ more)
      (opening ++ fieldTokens key value ++ ts) :=
  lines.entry enters left (writeScalar_ne_nil false _ _)
    (lineText_writeScalar (Nat.succ_pos column) value.toList)

theorem Yaml.Lines.number (lines : Lines (column + 1) (column + 1) inner more ts)
    (enters : Enters column level levels opening inner) (left : column < bound)
    (key : String) (n : Nat) :
    Lines bound level levels (writeEntry column key (toString n).toList ++ more)
      (opening ++ numberTokens key n ++ ts) := by
  have plain := plainText_toDigits n
  have line := plain.lineText (column + 1)
  rw [← closeLine_of_inLine plain.oneLine] at line
  rw [toList_toString]
  exact lines.entry enters left plain.held line

end

theorem blockKey (key : String) (held : key.toList ≠ []) (plain : allowsPlain key.toList = true)
    (small : key.utf8ByteSize ≤ 1024) : KeyText key.toList .plain key.toList :=
  (plainText_of_allowsPlain held plain).keyText ⟨by simpa using small,
    (plainText_of_allowsPlain held plain).oneLine⟩

theorem lines_takeover (ai : AiInfo) :
    Lines 1 1 [0] ai.yamlLines (blockTokens "takeover_ai" ai.tokens ++ [.blockEnd]) := by
  have ended : Lines 3 3 [1, 0] [] [.blockEnd, .blockEnd] :=
    Lines.done 1 1 rfl rfl (by decide)
  have level : Lines 3 3 [1, 0] _ _ :=
    ended.field (.stays 2 [1, 0]) (by decide) "level" (Named.name ai.level)
  have kind : Lines 3 1 [0] _ _ :=
    level.field (.opens (by decide) [0]) (by decide) "kind" (Named.name ai.kind)
  have record : Lines 1 1 [0] ("takeover_ai:\n".toList ++ _) _ :=
    kind.block (.stays 0 [0]) (by decide)
      (blockKey "takeover_ai" (by decide) (by decide) (by decide)) rfl
  unfold AiInfo.yamlLines
  rw [List.append_assoc]
  simpa only [AiInfo.tokens, blockTokens, List.append_assoc, List.append_nil, List.nil_append,
    List.cons_append] using record

section

variable {more : List Char} {ts : List Token}

theorem lines_entries (es : List (String × ChatCheat)) (lines : Lines 5 5 [3, 1, 0] more ts) :
    Lines 5 5 [3, 1, 0]
      (es.flatMap (fun e => writeEntry 4 e.1 (writeScalar false 6 (Named.name e.2).toList)) ++ more)
      (es.flatMap (fun e => fieldTokens e.1 (Named.name e.2)) ++ ts) := by
  induction es with
  | nil => exact lines
  | cons e es ih =>
    have first : Lines 5 5 [3, 1, 0] _ _ :=
      ih.field (.stays 4 [3, 1, 0]) (by decide) e.1 (Named.name e.2)
    simpa only [List.flatMap_cons, List.append_assoc, List.nil_append] using first

theorem lines_chatCommands (t : ChatTable) (shallow : Lines 3 3 [1, 0] more (.blockEnd :: ts))
    (deep : Lines 5 5 [3, 1, 0] more (.blockEnd :: .blockEnd :: ts)) :
    Lines 3 3 [1, 0] (t.yamlLines ++ more)
      (blockTokens "chat_commands" t.tokens ++ .blockEnd :: ts) := by
  have key := blockKey "chat_commands" (by decide) (by decide) (by decide)
  unfold ChatTable.yamlLines ChatTable.tokens
  cases t.entries with
  | nil =>
    have braces : Lines 3 3 [1, 0] ("  chat_commands: \x7b\x7d\n".toList ++ more) _ :=
      shallow.emptyBlock (.stays 2 [1, 0]) (by decide) key rfl
    exact braces
  | cons e es =>
    have first : Lines 5 3 [1, 0] _ _ :=
      (lines_entries es deep).field (.opens (by decide) [1, 0]) (by decide) e.1 (Named.name e.2)
    have table : Lines 3 3 [1, 0] ("  chat_commands:\n".toList ++ _) _ :=
      first.block (.stays 2 [1, 0]) (by decide) key rfl
    simpa only [blockTokens, List.isEmpty_cons, Bool.false_eq_true, if_false, List.flatMap_cons,
      List.append_assoc, List.nil_append, List.cons_append] using table

theorem lines_tracker (c : TrackerConfig) (shallow : Lines 3 3 [1, 0] more (.blockEnd :: ts))
    (deep : Lines 5 5 [3, 1, 0] more (.blockEnd :: .blockEnd :: ts)) :
    Lines 1 0 [] (c.yamlLines ++ more)
      (.mappingStart :: (blockTokens "tracker" c.tokens ++ ts)) := by
  have steps : Lines 3 3 [1, 0]
      (writeEntry 2 "speed_steps" (toString c.speedSteps).toList ++ _) _ :=
    (lines_chatCommands c.chatCommands shallow deep).number (.stays 2 [1, 0]) (by decide)
      "speed_steps" c.speedSteps.toNat
  have phrase : Lines 3 1 [0] _ _ :=
    steps.field (.opens (by decide) [0]) (by decide) "phrase" c.phrase
  have record : Lines 1 0 [] ("tracker:\n".toList ++ _) _ :=
    phrase.block (.opens (Nat.le_refl 0) []) (by decide)
      (blockKey "tracker" (by decide) (by decide) (by decide)) rfl
  unfold TrackerConfig.yamlLines
  rw [List.append_assoc, List.append_assoc, List.append_assoc]
  simpa only [TrackerConfig.tokens, blockTokens, List.append_assoc, List.nil_append,
    List.cons_append] using record

end

theorem lines_toYaml (c : CheatConfig) : Lines 1 0 [] c.toYaml.toList c.tokens := by
  -- the line of the frame length ends whatever blocks the tracker left open
  have frame (closed : Nat) {level : Nat} {levels : List Nat} (inside : 0 < level)
      (ends : Lexer.closeLevels 1 level levels = (closed, 1, [0])) :
      Lines level level levels
        (writeEntry 0 "base_frame_ms" (toString c.baseFrameMs).toList ++ c.takeoverAi.yamlLines)
        (List.replicate closed .blockEnd ++ numberTokens "base_frame_ms" c.baseFrameMs.toNat ++
          (blockTokens "takeover_ai" c.takeoverAi.tokens ++ [.blockEnd])) :=
    (lines_takeover c.takeoverAi).number (.closes closed ends) inside "base_frame_ms"
      c.baseFrameMs.toNat
  have whole : Lines 1 0 [] _ (.mappingStart :: (blockTokens "tracker" c.tracker.tokens ++
      (numberTokens "base_frame_ms" c.baseFrameMs.toNat ++ _))) :=
    lines_tracker c.tracker (frame 1 (by decide) rfl) (frame 2 (by decide) rfl)
  unfold CheatConfig.toYaml
  rw [String.toList_ofList, List.append_assoc]
  simpa only [CheatConfig.tokens, List.append_assoc] using whole

/-! Characters. -/

theorem writable_field (depth : Nat) (key value : String) :
    Writable (writeEntry depth key (writeScalar false (depth + 2) value.toList)) :=
  .writeEntry (.writeScalar false (depth + 2) value.toList) depth key

theorem writable_number (depth : Nat) (key : String) (n : Nat) :
    Writable (writeEntry depth key (toString n).toList) := by
  rw [toList_toString]
  exact .writeEntry (plainText_toDigits n).writable depth key

theorem writable_chatCommands (t : ChatTable) : Writable t.yamlLines := by
  unfold ChatTable.yamlLines
  exact .ite (List.all_eq_true.1 rfl) (.append (List.all_eq_true.1 rfl)
    (.flatMap fun e _ => writable_field 4 e.1 (Named.name e.2)))

theorem writable_tracker (c : TrackerConfig) : Writable c.yamlLines := by
  unfold TrackerConfig.yamlLines
  have header : Writable "tracker:\n".toList := List.all_eq_true.1 rfl
  exact ((header.append (writable_field 2 "phrase" c.phrase)).append
    (writable_number 2 "speed_steps" c.speedSteps.toNat)).append
      (writable_chatCommands c.chatCommands)

theorem writable_takeover (ai : AiInfo) : Writable ai.yamlLines := by
  unfold AiInfo.yamlLines
  have header : Writable "takeover_ai:\n".toList := List.all_eq_true.1 rfl
  exact (header.append (writable_field 2 "kind" (Named.name ai.kind))).append
    (writable_field 2 "level" (Named.name ai.level))

theorem writable_toYaml (c : CheatConfig) : Writable c.toYaml.toList := by
  unfold CheatConfig.toYaml
  rw [String.toList_ofList]
  exact ((writable_tracker c.tracker).append
    (writable_number 0 "base_frame_ms" c.baseFrameMs.toNat)).append
      (writable_takeover c.takeoverAi)

theorem tokens?_toYaml (c : CheatConfig) : tokens? c.toYaml.toList = some c.tokens :=
  tokens?_of_lines (lines_toYaml c) (writable_toYaml c)

end CheatCodes
