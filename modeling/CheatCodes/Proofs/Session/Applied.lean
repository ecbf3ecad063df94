import CheatCodes.Proofs.Session.Effect
import Mathlib.Algebra.Ring.Parity
/-!
The cheats that a play applies, each with the game that it meets. What only cheats can move is
folded over them; what some of them switch between two values is told by the parity of their number.
-/
namespace CheatCodes

structure Application where
  game : Game
  cheat : CheatAction
  deriving DecidableEq, Repr

namespace Session

def applied (s : Session) : List Turn → List Application
  | [] => []
  | t :: rest => (s.cheat? t).toList.map (⟨s.game, ·⟩) ++ (s.turn t).applied rest

theorem applied_cons_of_none {s : Session} {t : Turn} (h : s.cheat? t = none) (rest : List Turn) :
    s.applied (t :: rest) = (s.turn t).applied rest := by
  rw [applied, h]
  rfl

theorem applied_cons_of_some {s : Session} {t : Turn} {a : CheatAction} (h : s.cheat? t = some a)
    (rest : List Turn) : s.applied (t :: rest) = ⟨s.game, a⟩ :: (s.turn t).applied rest := by
  rw [applied, h]
  rfl

theorem turn_game_of_some {s : Session} {t : Turn} {a : CheatAction} (h : s.cheat? t = some a) :
    (s.turn t).game = s.game.perform a := by
  cases t with
  | outside o => cases h
  | call c =>
    cases h
    rfl
  | own b =>
    rcases s.step_game_cases b with ⟨c, applied, effect⟩ | ⟨applied, _⟩ | ⟨pt, p, rfl, _, _⟩
    · cases applied.symm.trans h
      exact effect
    · cases applied.symm.trans h
    · cases h

theorem turn_config (s : Session) (t : Turn) :
    (s.turn t).game.cheats.config = s.game.cheats.config := by
  rw [turn_cheats]
  cases s.cheat? t with
  | none => rfl
  | some a => exact s.game.perform_config a

theorem play_config (s : Session) (turns : List Turn) :
    (s.play turns).game.cheats.config = s.game.cheats.config := by
  induction turns generalizing s with
  | nil => rfl
  | cons t rest ih => exact (ih (s.turn t)).trans (s.turn_config t)

theorem config_of_mem_applied {s : Session} {turns : List Turn} {m : Application}
    (h : m ∈ s.applied turns) : m.game.cheats.config = s.game.cheats.config := by
  induction turns generalizing s with
  | nil => cases h
  | cons t rest ih =>
    rcases List.mem_append.1 h with now | later
    · obtain ⟨a, _, rfl⟩ := List.mem_map.1 now
      rfl
    · exact (ih later).trans (s.turn_config t)

theorem play_foldl {α : Type} (value : Game → α) (effect : α → Application → α) {s : Session}
    {turns : List Turn}
    (performed : ∀ m ∈ s.applied turns, value (m.game.perform m.cheat) = effect (value m.game) m)
    (unseen : ∀ (s : Session), ∀ t ∈ turns, s.cheat? t = none →
      value (s.turn t).game = value s.game) :
    value (s.play turns).game = (s.applied turns).foldl effect (value s.game) := by
  induction turns generalizing s with
  | nil => rfl
  | cons t rest ih =>
    have later (s : Session) := fun u (h : u ∈ rest) => unseen s u (List.mem_cons_of_mem t h)
    cases h : s.cheat? t with
    | none =>
      rw [applied_cons_of_none h] at performed ⊢
      rw [play_cons, ih performed later, unseen s t List.mem_cons_self h]
    | some a =>
      rw [applied_cons_of_some h, List.forall_mem_cons] at performed
      rw [applied_cons_of_some h, List.foldl_cons, play_cons, ih performed.2 later,
        turn_game_of_some h, performed.1]

end Session

theorem foldl_ite_eq_iterate {α β : Type} (hit : β → Prop) [DecidablePred hit] (f : α → α)
    (bs : List β) (a : α) :
    bs.foldl (fun a b => if hit b then f a else a) a = f^[bs.countP (hit ·)] a := by
  induction bs generalizing a with
  | nil => rfl
  | cons b bs ih =>
    by_cases h : hit b
    · simp [h, ih]
    · simp [h, ih]

theorem iterate_eq_ite_odd {α : Type} {f : α → α} {a b : α} (there : f a = b) (back : f b = a)
    (n : ℕ) : f^[n] a = if Odd n then b else a := by
  induction n with
  | zero => simp
  | succ n ih =>
    rw [Function.iterate_succ_apply', ih]
    by_cases odd : Odd n
    · simp [odd, Nat.odd_add_one, back]
    · simp [odd, Nat.odd_add_one, there]

namespace Session

theorem play_eq_ite_odd {α : Type} (value : Game → α) (switch : α → α) {a b : α}
    {hit : Application → Prop} [DecidablePred hit] {s : Session} {turns : List Turn}
    (performed : ∀ m ∈ s.applied turns,
      value (m.game.perform m.cheat) = if hit m then switch (value m.game) else value m.game)
    (unseen : ∀ (s : Session) (t : Turn), s.cheat? t = none → value (s.turn t).game = value s.game)
    (first : value s.game = a) (there : switch a = b) (back : switch b = a) :
    value (s.play turns).game = if Odd ((s.applied turns).countP (hit ·)) then b else a := by
  rw [play_foldl value (fun v m => if hit m then switch v else v) performed
    (fun s t _ => unseen s t), first, foldl_ite_eq_iterate, iterate_eq_ite_odd there back]

end Session

end CheatCodes
