import CheatCodes.World.Settlement
/-!
The world that scripts are played in: a square map, humans first and then computer players, each
with a headquarters, on a layout of four columns and two rows.
-/
namespace CheatCodes

inductive LayoutError where
  | playerCount (total : Nat)
  | mapSize (size : UInt16)
  | noFreeSlot
  deriving DecidableEq, Repr

def LayoutError.message : LayoutError → String
  | .playerCount total => s!"player count must be between 1 and 8, got {total}"
  | .mapSize size => s!"map size must be at least 32, got {size}"
  | .noFreeSlot => "no free player slot"

namespace Reference

def nations : List Nation :=
  [.romans, .vikings, .africans, .japanese, .babylonians]

def nation (i : Nat) : Nation :=
  nations[i % 5]?.getD .romans

def site (size : UInt16) (i : Nat) : Point :=
  let step := size.toNat / 4
  ⟨(i % 4 * step + step / 2).toUInt16, (i / 4 * 2 * step + step / 2).toUInt16⟩

def settle (size : UInt16) (humans : Nat) (w : World) (i : Nat) : Except LayoutError World :=
  match w.addPlayer (nation i) (if i < humans then .human else .ai) with
  | (some id, w) => .ok (w.foundHeadquarters id (site size i))
  | (none, _) => .error .noFreeSlot

def world (size : UInt16) (humans ai : UInt8) : Except LayoutError World :=
  let total := humans.toNat + ai.toNat
  if total = 0 ∨ 8 < total then .error (.playerCount total)
  else if size < 32 then .error (.mapSize size)
  else do
    let w ← (List.range total).foldlM (settle size humans.toNat) (.empty size size)
    return w.drainEvents.2

end Reference

end CheatCodes
