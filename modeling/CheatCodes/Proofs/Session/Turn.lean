import CheatCodes.Session
/-!
A session in its surroundings. Between its own steps others join the game, take over slots, move
the client on and commit frame lengths; a play is a run of both. What a step does to the game
depends on the cheat that it applies and on nothing else of the session.
-/
namespace CheatCodes

inductive Outside where
  | join (nation : Nation) (control : Control)
  | reassign (p : PlayerId) (control : Control)
  | clientState (state : ClientState)
  | replay (on : Bool)
  | commit
  deriving DecidableEq, Repr

namespace Outside

def onWorld (w : World) : Outside → World
  | .join nation control => (w.addPlayer nation control).2
  | .reassign p control => (w.setControl p control).2
  | .clientState _ | .replay _ | .commit => w

def onClient (c : Client) : Outside → Client
  | .join _ _ | .reassign _ _ => c
  | .clientState state => { c with state }
  | .replay on => { c with replay := on }
  | .commit => c.commit.2

end Outside

inductive Turn where
  | own (a : Session.Step)
  | call (a : CheatAction)
  | outside (o : Outside)
  deriving DecidableEq, Repr

def Turn.outside? : Turn → Option Outside
  | .outside o => some o
  | _ => none

namespace Session

def applied? (s : Session) : Step → Option CheatAction
  | .key e => (s.keys.track e).1
  | .chat line => s.commands.track line
  | .action a => some a
  | .place _ _ => none

def cheat? (s : Session) : Turn → Option CheatAction
  | .own a => s.applied? a
  | .call a => some a
  | .outside _ => none

def turn (s : Session) : Turn → Session
  | .own a => s.step a
  | .call a => { s with game := s.game.perform a }
  | .outside o =>
    { s with game := { s.game with world := o.onWorld s.game.world
                                   client := o.onClient s.game.client } }

def play (s : Session) (turns : List Turn) : Session :=
  turns.foldl turn s

@[simp] theorem play_nil (s : Session) : s.play [] = s := rfl

@[simp] theorem play_cons (s : Session) (t : Turn) (turns : List Turn) :
    s.play (t :: turns) = (s.turn t).play turns := rfl

theorem play_append (s : Session) (first second : List Turn) :
    s.play (first ++ second) = (s.play first).play second :=
  List.foldl_append

theorem performAny_game (s : Session) (a : Option CheatAction) :
    (s.performAny a).game = a.elim s.game s.game.perform := by
  cases a <;> rfl

theorem step_game_cases (s : Session) (a : Step) :
    (∃ c, s.applied? a = some c ∧ (s.step a).game = s.game.perform c) ∨
    (s.applied? a = none ∧ (s.step a).game = s.game) ∨
    (∃ pt p, a = .place pt p ∧ (s.game.place pt p).1 = .ok () ∧
      (s.step a).game = (s.game.place pt p).2) := by
  cases a with
  | key e =>
    have effect : (s.step (.key e)).game = (s.keys.track e).1.elim s.game s.game.perform :=
      performAny_game _ _
    cases h : (s.keys.track e).1 with
    | none => exact .inr (.inl ⟨h, by rw [effect, h]; rfl⟩)
    | some c => exact .inl ⟨c, h, by rw [effect, h]; rfl⟩
  | chat line =>
    have effect : (s.step (.chat line)).game =
        (s.commands.track line).elim s.game s.game.perform := performAny_game _ _
    cases h : s.commands.track line with
    | none => exact .inr (.inl ⟨h, by rw [effect, h]; rfl⟩)
    | some c => exact .inl ⟨c, h, by rw [effect, h]; rfl⟩
  | action c => exact .inl ⟨c, rfl, rfl⟩
  | place pt p =>
    cases answer : (s.game.place pt p).1 with
    | error e => exact .inr (.inl ⟨rfl, Game.place_of_error answer⟩)
    | ok _ => exact .inr (.inr ⟨pt, p, rfl, answer, rfl⟩)

end Session

end CheatCodes
