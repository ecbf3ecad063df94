import CheatCodes.Proofs.Session.Turn
/-!
Recognition apart from effect. A session answers key presses and chat lines by what its trackers
hear: whatever game an input meets, the keys are answered as by a tracker that hears nothing else,
and the lines as by the table alone. What becomes of the game is told by the answers.
-/
namespace CheatCodes

inductive Input where
  | key (e : KeyEvent)
  | chat (line : String)
  deriving DecidableEq, Repr

namespace Input

def key? : Input → Option KeyEvent
  | .key e => some e
  | .chat _ => none

def line? : Input → Option String
  | .key _ => none
  | .chat line => some line

def answersTo {α : Type} (channel : Input → Option α) (inputs : List Input)
    (answers : List (Option CheatAction)) : List (Option CheatAction) :=
  ((inputs.zip answers).filter fun heard => (channel heard.1).isSome).map (·.2)

theorem answersTo_cons {α : Type} (channel : Input → Option α) (i : Input) (inputs : List Input)
    (answer : Option CheatAction) (answers : List (Option CheatAction)) :
    answersTo channel (i :: inputs) (answer :: answers) =
      if (channel i).isSome then answer :: answersTo channel inputs answers
      else answersTo channel inputs answers := by
  cases own : channel i with
  | none => simp [answersTo, own]
  | some x => simp [answersTo, own]

end Input

namespace Session

def enter (s : Session) : Input → Option CheatAction × Session
  | .key e => s.onKey e
  | .chat line => s.onChat line

def enterAll (s : Session) : List Input → List (Option CheatAction) × Session
  | [] => ([], s)
  | i :: rest =>
    let (answer, s) := s.enter i
    let (answers, s) := s.enterAll rest
    (answer :: answers, s)

/-- The answers to inputs that each meet a game of their own, not what the one before left. -/
def enterAmid (s : Session) : List (Game × Input) → List (Option CheatAction)
  | [] => []
  | (game, i) :: rest =>
    let (answer, next) := { s with game }.enter i
    answer :: next.enterAmid rest

theorem performAny_eq (s : Session) (a : Option CheatAction) :
    s.performAny a = { s with game := a.elim s.game s.game.perform } := by
  cases a <;> rfl

theorem enter_key (s : Session) (e : KeyEvent) :
    s.enter (.key e) = ((s.keys.track e).1,
      { s with keys := (s.keys.track e).2
               game := (s.keys.track e).1.elim s.game s.game.perform }) := by
  simp only [enter, onKey, performAny_eq]

theorem enter_chat (s : Session) (line : String) :
    s.enter (.chat line) = (s.commands.track line,
      { s with game := (s.commands.track line).elim s.game s.game.perform }) := by
  simp only [enter, onChat, performAny_eq]

theorem enterAll_length (s : Session) (inputs : List Input) :
    (s.enterAll inputs).1.length = inputs.length := by
  induction inputs generalizing s with
  | nil => rfl
  | cons i rest ih => simp [enterAll, ih]

theorem enterAmid_eq_enterAll {s t : Session} (keys : s.keys = t.keys)
    (commands : s.commands = t.commands) (met : List (Game × Input)) :
    s.enterAmid met = (t.enterAll (met.map (·.2))).1 := by
  induction met generalizing s t with
  | nil => rfl
  | cons m rest ih =>
    obtain ⟨game, i⟩ := m
    cases i with
    | key e =>
      simp only [enterAmid, List.map_cons, enterAll, enter_key, keys]
      congr 1
      apply ih
      · rfl
      · exact commands
    | chat line =>
      simp only [enterAmid, List.map_cons, enterAll, enter_chat, commands]
      congr 1
      apply ih
      · exact keys
      · rfl

theorem answersTo_key_enterAll (s : Session) (inputs : List Input) :
    Input.answersTo Input.key? inputs (s.enterAll inputs).1 =
        (s.keys.trackAll (inputs.filterMap Input.key?)).1 ∧
      (s.enterAll inputs).2.keys = (s.keys.trackAll (inputs.filterMap Input.key?)).2 := by
  -- A chat line leaves the session's tracker where the lone one waits for the next key.
  induction inputs generalizing s with
  | nil => exact ⟨rfl, rfl⟩
  | cons i rest ih =>
    have later := ih (s.enter i).2
    cases i with
    | key e =>
      rw [enter_key] at later
      simp only [enterAll, enter_key, Input.answersTo_cons, List.filterMap_cons, Input.key?,
        Option.isSome_some, if_true, KeyTracker.trackAll]
      exact ⟨congrArg _ later.1, later.2⟩
    | chat line =>
      rw [enter_chat] at later
      simp only [enterAll, enter_chat, Input.answersTo_cons, List.filterMap_cons, Input.key?]
      exact later

theorem answersTo_line_enterAll (s : Session) (inputs : List Input) :
    Input.answersTo Input.line? inputs (s.enterAll inputs).1 =
      (inputs.filterMap Input.line?).map s.commands.track := by
  induction inputs generalizing s with
  | nil => rfl
  | cons i rest ih =>
    have later := ih (s.enter i).2
    cases i with
    | key e =>
      rw [enter_key] at later
      simp only [enterAll, enter_key, Input.answersTo_cons, List.filterMap_cons, Input.line?]
      exact later
    | chat line =>
      rw [enter_chat] at later
      simp only [enterAll, enter_chat, Input.answersTo_cons, List.filterMap_cons, Input.line?,
        Option.isSome_some, if_true, List.map_cons]
      exact congrArg _ later

theorem foldl_perform_game (actions : List CheatAction) (s : Session) :
    (actions.foldl perform s).game = actions.foldl Game.perform s.game := by
  induction actions generalizing s with
  | nil => rfl
  | cons a rest ih => exact ih (s.perform a)

theorem enterAll_game (s : Session) (inputs : List Input) :
    (s.enterAll inputs).2.game =
      (((s.enterAll inputs).1.filterMap id).foldl perform s).game := by
  rw [foldl_perform_game]
  induction inputs generalizing s with
  | nil => rfl
  | cons i rest ih =>
    have later := ih (s.enter i).2
    have effect : (s.enter i).2.game = (s.enter i).1.elim s.game s.game.perform := by
      cases i with
      | key e => rw [enter_key]
      | chat line => rw [enter_chat]
    rw [effect] at later
    simp only [enterAll]
    rw [later]
    cases (s.enter i).1 with
    | none => rfl
    | some a => rfl

/-- The answers to key presses and chat lines are the same whatever games they meet, and those that
the keys get from a tracker and the lines from a table that hear nothing else. The game after them
is the one that the answered cheats make, one after another, when they are applied alone. -/
theorem enterAll_separate (config : CheatConfig) (world : World) (client : Client)
    (met : List (Game × Input)) :
    let s := start config world client
    let inputs := met.map (·.2)
    let answers := (s.enterAll inputs).1
    let lone := (KeyTracker.ofConfig config.tracker).trackAll (inputs.filterMap Input.key?)
    s.enterAmid met = answers ∧
    answers.length = inputs.length ∧
    Input.answersTo Input.key? inputs answers = lone.1 ∧
    (s.enterAll inputs).2.keys = lone.2 ∧
    Input.answersTo Input.line? inputs answers =
      (inputs.filterMap Input.line?).map config.tracker.chatCommands.track ∧
    (s.enterAll inputs).2.game = ((answers.filterMap id).foldl perform s).game := by
  intro s inputs answers lone
  obtain ⟨keys, tracker⟩ := s.answersTo_key_enterAll inputs
  exact ⟨enterAmid_eq_enterAll rfl rfl met, s.enterAll_length inputs, keys, tracker,
    s.answersTo_line_enterAll inputs, s.enterAll_game inputs⟩

example :
    let s := start .standard ((World.empty 2 2).addPlayer .romans .human).2 (.inGame ⟨0⟩)
    let typed (text : String) := text.toList.map fun c => Input.key (.typed c)
    (s.enterAll (typed "win" ++ [.chat "apocalypsis"] ++ typed "ter")).1.filterMap id =
      [.armageddon, .toggleCheatMode] := by
  decide

end Session

end CheatCodes
