import CheatCodes.Config.Yaml
import Mathlib.Data.List.Basic
/-!
Configurations from documents that leave fields out. At every level each field that a record gives
counts, wherever it stands and whatever unknown fields stand around it, and one that is left out is
the standard one. Only usable configurations come from a text. Main statement:
`CheatConfig.ofYaml_merged`.
-/
namespace CheatCodes
open Yaml

/-! Records with some of their fields. -/

structure AiFields where
  kind : Option AiKind := none
  level : Option AiLevel := none

structure TrackerFields where
  phrase : Option String := none
  speedSteps : Option UInt8 := none
  chatCommands : Option ChatTable := none

structure ConfigFields where
  tracker : Option TrackerFields := none
  baseFrameMs : Option UInt32 := none
  takeoverAi : Option AiFields := none

def AiFields.over (f : AiFields) (ai : AiInfo) : AiInfo where
  kind := f.kind.getD ai.kind
  level := f.level.getD ai.level

def TrackerFields.over (f : TrackerFields) (c : TrackerConfig) : TrackerConfig where
  phrase := f.phrase.getD c.phrase
  speedSteps := f.speedSteps.getD c.speedSteps
  chatCommands := f.chatCommands.getD c.chatCommands

def ConfigFields.over (f : ConfigFields) (c : CheatConfig) : CheatConfig where
  tracker := (f.tracker.map (·.over c.tracker)).getD c.tracker
  baseFrameMs := f.baseFrameMs.getD c.baseFrameMs
  takeoverAi := (f.takeoverAi.map (·.over c.takeoverAi)).getD c.takeoverAi

/-- Entries give a field once, by a node of that meaning, or leave it out. -/
def Gives {α : Type} (means : Yaml.Node → α → Prop) (entries : List (String × Yaml.Node))
    (name : String) : Option α → Prop
  | some a => ∃ before n after, entries = before ++ (name, n) :: after ∧ means n a ∧
      ∀ m, (name, m) ∉ before ++ after
  | none => ∀ m, (name, m) ∉ entries

section

variable (d : Document) (n : Yaml.Node)

def ChatTable.GivenBy (t : ChatTable) : Prop :=
  ∃ entries, d.entries? n = some entries ∧ ∃ cheats,
    entries.map (fun e => (e.1, d.named? e.2)) = cheats.map (fun e => (e.1, some e.2)) ∧
    ChatTable.ofList cheats = t

def AiFields.GivenBy (f : AiFields) : Prop :=
  ∃ entries, d.entries? n = some entries ∧
    Gives (fun n kind => d.named? n = some kind) entries "kind" f.kind ∧
    Gives (fun n level => d.named? n = some level) entries "level" f.level

def TrackerFields.GivenBy (f : TrackerFields) : Prop :=
  ∃ entries, d.entries? n = some entries ∧
    Gives (fun n phrase => d.text? n = some phrase) entries "phrase" f.phrase ∧
    Gives (fun n steps => d.unsigned? 255 n = some steps.toNat) entries "speed_steps"
      f.speedSteps ∧
    Gives (fun n table => table.GivenBy d n) entries "chat_commands" f.chatCommands

def ConfigFields.GivenBy (f : ConfigFields) : Prop :=
  ∃ entries, d.entries? n = some entries ∧
    Gives (fun n tracker => tracker.GivenBy d n) entries "tracker" f.tracker ∧
    Gives (fun n ms => d.unsigned? 4294967295 n = some ms.toNat) entries "base_frame_ms"
      f.baseFrameMs ∧
    Gives (fun n ai => ai.GivenBy d n) entries "takeover_ai" f.takeoverAi

end

/-- An empty stream gives no field. -/
def ConfigFields.HeldBy (d : Document) (f : ConfigFields) : Prop :=
  match d.root with
  | some n => f.GivenBy d n
  | none => f = {}

/-- The fields that a text gives, which are none if it is blank. -/
inductive ConfigFields.WrittenIn (text : String) : ConfigFields → Prop
  | blank (nothing : Text.trim text.toList = []) : WrittenIn text {}
  | document {d : Document} {f : ConfigFields} (content : Text.trim text.toList ≠ [])
    (read : Document.ofChars? text.toList = some d) (held : f.HeldBy d) : WrittenIn text f

/-! One field. -/

section

variable {α β : Type} {means : Yaml.Node → α → Prop} {entries : List (String × Yaml.Node)}
  {name : String}

theorem countP_eq_zero_of_absent (absent : ∀ m, (name, m) ∉ entries) :
    entries.countP (·.1 == name) = 0 := by
  refine List.countP_eq_zero.2 fun e member same => absent e.2 ?_
  rw [← beq_iff_eq.1 same]
  exact member

theorem lookup_eq_none_iff_absent : entries.lookup name = none ↔ ∀ m, (name, m) ∉ entries := by
  rw [List.lookup_eq_none_iff]
  constructor
  · intro others m member
    exact absurd rfl (bne_iff_ne.1 (others _ member))
  · intro absent e member
    refine bne_iff_ne.2 fun same => absent e.2 ?_
    rw [same]
    exact member

theorem gives_iff {value : Option α} :
    Gives means entries name value ↔
      entries.countP (·.1 == name) ≤ 1 ∧ Option.Rel means (entries.lookup name) value := by
  constructor
  · intro given
    cases value with
    | none =>
      rw [countP_eq_zero_of_absent given, lookup_eq_none_iff_absent.2 given]
      exact ⟨Nat.zero_le 1, .none⟩
    | some a =>
      obtain ⟨before, n, after, rfl, meant, alone⟩ := given
      have first : ∀ m, (name, m) ∉ before := fun m member =>
        alone m (List.mem_append_left after member)
      have last : ∀ m, (name, m) ∉ after := fun m member =>
        alone m (List.mem_append_right before member)
      rw [List.countP_append, List.countP_cons, countP_eq_zero_of_absent first,
        countP_eq_zero_of_absent last, List.lookup_append, lookup_eq_none_iff_absent.2 first]
      exact ⟨by simp, by simpa using Option.Rel.some meant⟩
  · rintro ⟨once, found⟩
    cases place : entries.lookup name with
    | none =>
      rw [place] at found
      cases found
      exact lookup_eq_none_iff_absent.1 place
    | some n =>
      rw [place] at found
      cases found with
      | some meant =>
        obtain ⟨before, after, rfl, others⟩ := List.lookup_eq_some_iff.1 place
        refine ⟨before, n, after, rfl, meant, fun m member => ?_⟩
        rcases List.mem_append.1 member with early | late
        · exact absurd rfl (bne_iff_ne.1 (others _ early))
        · have again : 0 < after.countP (·.1 == name) :=
            List.countP_pos_iff.2 ⟨_, late, beq_self_eq_true name⟩
          rw [List.countP_append, List.countP_cons, if_pos (beq_self_eq_true name)] at once
          omega

theorem Gives.once {value : Option α} (given : Gives means entries name value) :
    entries.countP (·.1 == name) ≤ 1 :=
  (gives_iff.1 given).1

theorem lookup_filter_known {known : List String} (member : name ∈ known) :
    (entries.filter fun e => known.contains e.1).lookup name = entries.lookup name := by
  induction entries with
  | nil => rfl
  | cons e entries ih =>
    obtain ⟨key, n⟩ := e
    rw [List.filter_cons]
    by_cases same : name = key
    · subst same
      rw [if_pos (List.contains_iff_mem.2 member)]
      simp
    · split
      · simp only [List.lookup_cons, beq_eq_false_iff_ne.2 same, ih]
      · simp only [List.lookup_cons, beq_eq_false_iff_ne.2 same, ih]

variable {known : List String} (once : ∀ name ∈ known, entries.countP (·.1 == name) ≤ 1)
  (member : name ∈ known)

include once member

theorem fieldOr_iff {read : Yaml.Node → Option β} {f : α → β}
    (meaning : ∀ n b, read n = some b ↔ ∃ a, means n a ∧ f a = b) {standard b : β} :
    fieldOr standard read (entries.filter fun e => known.contains e.1) name = some b ↔
      ∃ value, Gives means entries name value ∧ (value.map f).getD standard = b := by
  simp only [gives_iff, once name member, true_and]
  rw [fieldOr, lookup_filter_known member]
  cases entries.lookup name with
  | none =>
    constructor
    · intro same
      exact ⟨none, .none, Option.some.inj same⟩
    · rintro ⟨_, ⟨⟩, same⟩
      exact congrArg some same
  | some n =>
    refine (meaning n b).trans ?_
    constructor
    · rintro ⟨a, meant, same⟩
      exact ⟨some a, .some meant, same⟩
    · rintro ⟨_, ⟨meant⟩, same⟩
      exact ⟨_, meant, same⟩

theorem fieldOr_leaf_iff {read : Yaml.Node → Option α}
    (meaning : ∀ n a, read n = some a ↔ means n a) {standard a : α} :
    fieldOr standard read (entries.filter fun e => known.contains e.1) name = some a ↔
      ∃ value, Gives means entries name value ∧ value.getD standard = a := by
  have self (n : Yaml.Node) (b : α) : read n = some b ↔ ∃ a, means n a ∧ id a = b := by
    simp [meaning]
  simpa using fieldOr_iff once member self

end

/-! Records. -/

section

variable {d : Document} {n : Yaml.Node}

theorem Yaml.Document.fields?_eq_some_iff {known : List String}
    {kept : List (String × Yaml.Node)} :
    d.fields? known n = some kept ↔
      ∃ entries, d.entries? n = some entries ∧
        (∀ name ∈ known, entries.countP (·.1 == name) ≤ 1) ∧
        entries.filter (fun e => known.contains e.1) = kept := by
  simp only [fields?, Option.bind_eq_bind, Option.bind_eq_some_iff]
  refine exists_congr fun entries => and_congr_right fun _ => ?_
  simp [List.all_eq_true]

theorem mapM_named?_eq_some_iff {entries : List (String × Yaml.Node)}
    {cheats : List (String × ChatCheat)} :
    (entries.mapM fun e => (d.named? e.2).map fun cheat => (e.1, cheat)) = some cheats ↔
      entries.map (fun e => (e.1, d.named? e.2)) = cheats.map fun e => (e.1, some e.2) := by
  induction entries generalizing cheats with
  | nil => cases cheats <;> simp
  | cons e entries ih =>
    cases cheats with
    | nil => simp [List.mapM_cons, Option.bind_eq_some_iff]
    | cons cheat cheats =>
      obtain ⟨line, cheat⟩ := cheat
      simp only [List.mapM_cons, Option.bind_eq_bind, Option.bind_eq_some_iff, Option.pure_def,
        Option.map_eq_some_iff, Option.some.injEq, List.cons.injEq, List.map_cons, Prod.mk.injEq,
        ← ih]
      constructor
      · rintro ⟨_, ⟨_, named, rfl⟩, _, read, ⟨rfl, rfl⟩, rfl⟩
        exact ⟨⟨rfl, named⟩, read⟩
      · rintro ⟨⟨rfl, named⟩, read⟩
        exact ⟨_, ⟨cheat, named, rfl⟩, cheats, read, rfl, rfl⟩

theorem ChatTable.ofNode?_eq_some_iff {t : ChatTable} :
    ChatTable.ofNode? d n = some t ↔ t.GivenBy d n := by
  simp only [ChatTable.ofNode?, Option.bind_eq_bind, Option.bind_eq_some_iff, Option.pure_def,
    Option.some.injEq, mapM_named?_eq_some_iff, ChatTable.GivenBy]

theorem Yaml.Document.le_of_unsigned? {bound k : Nat} (read : d.unsigned? bound n = some k) :
    k ≤ bound := by
  unfold unsigned? at read
  split at read
  · split at read
    · simpa using (Option.filter_eq_some_iff.1 read).2
    · cases read
  · cases read

theorem Yaml.Document.map_unsigned?_eq_some_iff {α : Type} {bound : Nat} {word : Nat → α}
    {toNat : α → Nat} (word_toNat : ∀ a, word (toNat a) = a)
    (toNat_word : ∀ k ≤ bound, toNat (word k) = k) {a : α} :
    (d.unsigned? bound n).map word = some a ↔ d.unsigned? bound n = some (toNat a) := by
  rw [Option.map_eq_some_iff]
  constructor
  · rintro ⟨k, read, rfl⟩
    rw [read, toNat_word k (le_of_unsigned? read)]
  · intro read
    exact ⟨_, read, word_toNat a⟩

theorem AiInfo.ofNode?_eq_some_iff {ai : AiInfo} :
    AiInfo.ofNode? d n = some ai ↔ ∃ f : AiFields, f.GivenBy d n ∧ f.over .standard = ai := by
  simp only [AiInfo.ofNode?, Option.bind_eq_bind, Option.bind_eq_some_iff, Option.pure_def,
    Option.some.injEq]
  constructor
  · rintro ⟨_, read, kind, readKind, level, readLevel, rfl⟩
    obtain ⟨entries, listed, once, rfl⟩ := Document.fields?_eq_some_iff.1 read
    obtain ⟨kind, givenKind, rfl⟩ :=
      (fieldOr_leaf_iff once (by simp) fun _ _ => .rfl).1 readKind
    obtain ⟨level, givenLevel, rfl⟩ :=
      (fieldOr_leaf_iff once (by simp) fun _ _ => .rfl).1 readLevel
    exact ⟨⟨kind, level⟩, ⟨entries, listed, givenKind, givenLevel⟩, rfl⟩
  · rintro ⟨f, ⟨entries, listed, kind, level⟩, rfl⟩
    have once : ∀ name ∈ ["kind", "level"], entries.countP (·.1 == name) ≤ 1 := by
      simp [kind.once, level.once]
    refine ⟨_, Document.fields?_eq_some_iff.2 ⟨entries, listed, once, rfl⟩, _, ?_, _, ?_, rfl⟩
    · exact (fieldOr_leaf_iff once (by simp) fun _ _ => .rfl).2 ⟨_, kind, rfl⟩
    · exact (fieldOr_leaf_iff once (by simp) fun _ _ => .rfl).2 ⟨_, level, rfl⟩

theorem map_steps_eq_some_iff (d : Document) (n : Yaml.Node) (steps : UInt8) :
    (d.unsigned? 255 n).map Nat.toUInt8 = some steps ↔ d.unsigned? 255 n = some steps.toNat :=
  Document.map_unsigned?_eq_some_iff (fun _ => UInt8.ofNat_toNat)
    fun _ small => UInt8.toNat_ofNat_of_lt' (Nat.lt_succ_of_le small)

theorem map_millis_eq_some_iff (d : Document) (n : Yaml.Node) (ms : UInt32) :
    (d.unsigned? 4294967295 n).map Nat.toUInt32 = some ms ↔
      d.unsigned? 4294967295 n = some ms.toNat :=
  Document.map_unsigned?_eq_some_iff (fun _ => UInt32.ofNat_toNat)
    fun _ small => UInt32.toNat_ofNat_of_lt' (Nat.lt_succ_of_le small)

theorem TrackerConfig.ofNode?_eq_some_iff {c : TrackerConfig} :
    TrackerConfig.ofNode? d n = some c ↔
      ∃ f : TrackerFields, f.GivenBy d n ∧ f.over .standard = c := by
  simp only [TrackerConfig.ofNode?, Option.bind_eq_bind, Option.bind_eq_some_iff, Option.pure_def,
    Option.some.injEq]
  constructor
  · rintro ⟨_, read, phrase, readPhrase, steps, readSteps, table, readTable, rfl⟩
    obtain ⟨entries, listed, once, rfl⟩ := Document.fields?_eq_some_iff.1 read
    obtain ⟨phrase, givenPhrase, rfl⟩ :=
      (fieldOr_leaf_iff once (by simp) fun _ _ => .rfl).1 readPhrase
    obtain ⟨steps, givenSteps, rfl⟩ :=
      (fieldOr_leaf_iff once (by simp) (map_steps_eq_some_iff d)).1 readSteps
    obtain ⟨table, givenTable, rfl⟩ :=
      (fieldOr_leaf_iff once (by simp) fun _ _ => ChatTable.ofNode?_eq_some_iff).1 readTable
    exact ⟨⟨phrase, steps, table⟩, ⟨entries, listed, givenPhrase, givenSteps, givenTable⟩, rfl⟩
  · rintro ⟨f, ⟨entries, listed, phrase, steps, table⟩, rfl⟩
    have once : ∀ name ∈ ["phrase", "speed_steps", "chat_commands"],
        entries.countP (·.1 == name) ≤ 1 := by
      simp [phrase.once, steps.once, table.once]
    refine ⟨_, Document.fields?_eq_some_iff.2 ⟨entries, listed, once, rfl⟩,
      _, ?_, _, ?_, _, ?_, rfl⟩
    · exact (fieldOr_leaf_iff once (by simp) fun _ _ => .rfl).2 ⟨_, phrase, rfl⟩
    · exact (fieldOr_leaf_iff once (by simp) (map_steps_eq_some_iff d)).2 ⟨_, steps, rfl⟩
    · exact (fieldOr_leaf_iff once (by simp) fun _ _ => ChatTable.ofNode?_eq_some_iff).2
        ⟨_, table, rfl⟩

/-- The standard values of a nested record are those of its own kind, so it is merged on its own. -/
theorem CheatConfig.ofNode?_eq_some_iff {c : CheatConfig} :
    CheatConfig.ofNode? d n = some c ↔
      ∃ f : ConfigFields, f.GivenBy d n ∧ f.over .standard = c := by
  simp only [CheatConfig.ofNode?, Option.bind_eq_bind, Option.bind_eq_some_iff, Option.pure_def,
    Option.some.injEq]
  constructor
  · rintro ⟨_, read, tracker, readTracker, ms, readMs, ai, readAi, rfl⟩
    obtain ⟨entries, listed, once, rfl⟩ := Document.fields?_eq_some_iff.1 read
    obtain ⟨tracker, givenTracker, rfl⟩ :=
      (fieldOr_iff once (by simp) fun _ _ => TrackerConfig.ofNode?_eq_some_iff).1 readTracker
    obtain ⟨ms, givenMs, rfl⟩ :=
      (fieldOr_leaf_iff once (by simp) (map_millis_eq_some_iff d)).1 readMs
    obtain ⟨ai, givenAi, rfl⟩ :=
      (fieldOr_iff once (by simp) fun _ _ => AiInfo.ofNode?_eq_some_iff).1 readAi
    exact ⟨⟨tracker, ms, ai⟩, ⟨entries, listed, givenTracker, givenMs, givenAi⟩, rfl⟩
  · rintro ⟨f, ⟨entries, listed, tracker, ms, ai⟩, rfl⟩
    have once : ∀ name ∈ ["tracker", "base_frame_ms", "takeover_ai"],
        entries.countP (·.1 == name) ≤ 1 := by
      simp [tracker.once, ms.once, ai.once]
    refine ⟨_, Document.fields?_eq_some_iff.2 ⟨entries, listed, once, rfl⟩,
      _, ?_, _, ?_, _, ?_, rfl⟩
    · exact (fieldOr_iff once (by simp) fun _ _ => TrackerConfig.ofNode?_eq_some_iff).2
        ⟨_, tracker, rfl⟩
    · exact (fieldOr_leaf_iff once (by simp) (map_millis_eq_some_iff d)).2 ⟨_, ms, rfl⟩
    · exact (fieldOr_iff once (by simp) fun _ _ => AiInfo.ofNode?_eq_some_iff).2 ⟨_, ai, rfl⟩

theorem CheatConfig.ofDocument?_eq_some_iff {c : CheatConfig} :
    CheatConfig.ofDocument? d = some c ↔
      ∃ f : ConfigFields, f.HeldBy d ∧ f.over .standard = c := by
  unfold CheatConfig.ofDocument? ConfigFields.HeldBy
  cases d.root with
  | some n => exact CheatConfig.ofNode?_eq_some_iff
  | none =>
    constructor
    · intro same
      exact ⟨{}, rfl, Option.some.inj same⟩
    · rintro ⟨_, rfl, same⟩
      exact congrArg some same

end

/-! Texts. -/

theorem CheatConfig.validate_standard : CheatConfig.standard.validate = .ok () :=
  rfl

section

variable {text : String}

theorem CheatConfig.ofYaml_of_writtenIn {f : ConfigFields} (written : f.WrittenIn text) :
    CheatConfig.ofYaml text = (f.over .standard).validate.map fun _ => f.over .standard := by
  cases written with
  | blank nothing =>
    -- Nothing is validated here, but the standard values would pass.
    have usable : (ConfigFields.over {} .standard).validate = .ok () :=
      CheatConfig.validate_standard
    rw [ofYaml, if_pos nothing, usable]
    rfl
  | document content read held =>
    have merged := CheatConfig.ofDocument?_eq_some_iff.2 ⟨f, held, rfl⟩
    simp only [ofYaml, content, if_false, read, merged]

theorem CheatConfig.map_validate_eq_ok_iff {c c' : CheatConfig} :
    (c.validate.map fun _ => c) = .ok c' ↔ c = c' ∧ c.validate = .ok () := by
  cases c.validate with
  | ok => simp [Except.map]
  | error e => simp [Except.map]

theorem CheatConfig.exists_writtenIn {c : CheatConfig} (h : CheatConfig.ofYaml text = .ok c) :
    ∃ f : ConfigFields, f.WrittenIn text ∧ f.over .standard = c := by
  by_cases nothing : Text.trim text.toList = []
  · rw [ofYaml, if_pos nothing] at h
    exact ⟨{}, .blank nothing, Except.ok.inj h⟩
  · rw [ofYaml, if_neg nothing] at h
    split at h
    · cases h
    · rename_i d read
      split at h
      · cases h
      · rename_i c' decoded
        obtain ⟨f, held, merged⟩ := CheatConfig.ofDocument?_eq_some_iff.1 decoded
        exact ⟨f, .document nothing read held,
          merged.trans (CheatConfig.map_validate_eq_ok_iff.1 h).1⟩

end

/-- A document is read exactly if each known field is given once at most and has a value of its
kind, and then those that are given take the place of the standard ones. A text is read the same
way, and only usable configurations come from it. -/
theorem CheatConfig.ofYaml_merged :
    (∀ d n c, CheatConfig.ofNode? d n = some c ↔
      ∃ f : ConfigFields, f.GivenBy d n ∧ f.over .standard = c) ∧
    (∀ text (f : ConfigFields), f.WrittenIn text → CheatConfig.ofYaml text =
      match (f.over .standard).validate with
      | .ok () => .ok (f.over .standard)
      | .error e => .error e) ∧
    ∀ text c, CheatConfig.ofYaml text = .ok c → c.validate = .ok () ∧
      ∃ f : ConfigFields, f.WrittenIn text ∧ f.over .standard = c := by
  refine ⟨fun d n c => CheatConfig.ofNode?_eq_some_iff, fun text f written => ?_,
    fun text c read => ?_⟩
  · rw [CheatConfig.ofYaml_of_writtenIn written]
    cases (f.over .standard).validate <;> rfl
  · obtain ⟨f, written, rfl⟩ := CheatConfig.exists_writtenIn read
    rw [CheatConfig.ofYaml_of_writtenIn written] at read
    exact ⟨(CheatConfig.map_validate_eq_ok_iff.1 read).2, f, written, rfl⟩

/-! A document whose records leave fields out, with an unknown field between them. -/

def easyNode : Yaml.Node :=
  .mapping none [
    (.scalar none none .plain "level".toList, .scalar none none .plain "Easy".toList)]

def boomNode : Yaml.Node :=
  .mapping none [
    (.scalar none none .plain "boom".toList, .scalar none none .plain "armageddon".toList)]

def iceNode : Yaml.Node :=
  .mapping none [(.scalar none none .plain "chat_commands".toList, boomNode),
    (.scalar none none .plain "phrase".toList, .scalar none none .plain "ice".toList)]

def partialNode : Yaml.Node :=
  .mapping none [(.scalar none none .plain "takeover_ai".toList, easyNode),
    (.scalar none none .plain "x".toList, .scalar none none .plain "1".toList),
    (.scalar none none .plain "tracker".toList, iceNode)]

def partialText : String :=
  "takeover_ai:\n level: Easy\nx: 1\ntracker:\n chat_commands:\n  boom: armageddon\n phrase: ice\n"

def partialTokens : List Token :=
  [.mappingStart,
    .key, .scalar .plain "takeover_ai".toList, .value, .mappingStart,
      .key, .scalar .plain "level".toList, .value, .scalar .plain "Easy".toList, .blockEnd,
    .key, .scalar .plain "x".toList, .value, .scalar .plain "1".toList,
    .key, .scalar .plain "tracker".toList, .value, .mappingStart,
      .key, .scalar .plain "chat_commands".toList, .value, .mappingStart,
        .key, .scalar .plain "boom".toList, .value, .scalar .plain "armageddon".toList, .blockEnd,
      .key, .scalar .plain "phrase".toList, .value, .scalar .plain "ice".toList, .blockEnd,
    .blockEnd]

theorem CheatConfig.ofYaml_merged_partial :
    let table := ChatTable.ofList [("boom", .armageddon)]
    let f : ConfigFields := {
      tracker := some { phrase := some "ice", chatCommands := some table }
      takeoverAi := some { level := some .easy } }
    let c : CheatConfig := ⟨⟨"ice", 6, table⟩, 50, ⟨.default, .easy⟩⟩
    f.GivenBy ⟨some partialNode⟩ partialNode ∧
      CheatConfig.ofNode? ⟨some partialNode⟩ partialNode = some c ∧
      f.WrittenIn partialText ∧ CheatConfig.ofYaml partialText = .ok c ∧ c.validate = .ok () := by
  intro table f c
  let d : Document := ⟨some partialNode⟩
  have scanned : tokens? partialText.toList = some partialTokens := by decide +kernel
  have read : Document.ofChars? partialText.toList = some d := by
    rw [Document.ofChars?, scanned]
    rfl
  have commands : table.GivenBy d boomNode := ⟨_, rfl, [("boom", .armageddon)], rfl, rfl⟩
  have tracker : TrackerFields.GivenBy d iceNode
      { phrase := some "ice", chatCommands := some table } :=
    ⟨_, rfl, ⟨[_], _, [], rfl, rfl, by simp⟩, by simp [Gives], ⟨[], _, [_], rfl, commands, by simp⟩⟩
  have takeover : AiFields.GivenBy d easyNode { level := some .easy } :=
    ⟨_, rfl, by simp [Gives], ⟨[], _, [], rfl, rfl, by simp⟩⟩
  have given : f.GivenBy d partialNode :=
    ⟨_, rfl, ⟨[_, _], _, [], rfl, tracker, by simp⟩, by simp [Gives, f],
      ⟨[], _, [_, _], rfl, takeover, by simp⟩⟩
  have written : f.WrittenIn partialText := .document (by decide) read given
  obtain ⟨decoded, merged, usable⟩ := CheatConfig.ofYaml_merged
  have whole : CheatConfig.ofYaml partialText = .ok c := merged partialText f written
  exact ⟨given, (decoded d partialNode c).2 ⟨f, given, rfl⟩, written, whole,
    (usable partialText c whole).1⟩

end CheatCodes
