import CheatCodes.Named
/-!
Places on the map and what lies on them: points, deposits and what may be built.
-/
namespace CheatCodes

structure Point where
  x : UInt16
  y : UInt16
  deriving DecidableEq, Repr, Inhabited

def Point.text (pt : Point) : String :=
  s!"({pt.x}, {pt.y})"

/-- What can be built on a node, from least to most; the last two only allow special buildings. -/
inductive Quality where
  | nothing
  | flag
  | hut
  | house
  | castle
  | mine
  | harbor
  deriving DecidableEq, Repr, Inhabited

namespace Quality

instance : Named Quality where
  members := [.nothing, .flag, .hut, .house, .castle, .mine, .harbor]
  name
    | .nothing => "Nothing"
    | .flag => "Flag"
    | .hut => "Hut"
    | .house => "House"
    | .castle => "Castle"
    | .mine => "Mine"
    | .harbor => "Harbor"
  find_name a := by cases a <;> rfl

def rank : Quality → Nat
  | .nothing => 0
  | .flag => 1
  | .hut => 2
  | .house => 3
  | .castle => 4
  | .mine => 5
  | .harbor => 6

instance : Ord Quality := ⟨fun a b => compare a.rank b.rank⟩
instance : LT Quality := ⟨fun a b => a.rank < b.rank⟩
instance : LE Quality := ⟨fun a b => a.rank ≤ b.rank⟩
instance (a b : Quality) : Decidable (a < b) := inferInstanceAs (Decidable (a.rank < b.rank))
instance (a b : Quality) : Decidable (a ≤ b) := inferInstanceAs (Decidable (a.rank ≤ b.rank))

end Quality

inductive ResourceKind where
  | nothing
  | iron
  | gold
  | coal
  | granite
  | water
  | fish
  deriving DecidableEq, Repr, Inhabited

namespace ResourceKind

instance : Named ResourceKind where
  members := [.nothing, .iron, .gold, .coal, .granite, .water, .fish]
  name
    | .nothing => "Nothing"
    | .iron => "Iron"
    | .gold => "Gold"
    | .coal => "Coal"
    | .granite => "Granite"
    | .water => "Water"
    | .fish => "Fish"
  find_name a := by cases a <;> rfl

def isOre : ResourceKind → Bool
  | .iron | .gold | .coal | .granite => true
  | .nothing | .water | .fish => false

end ResourceKind

structure Resource where
  kind : ResourceKind
  amount : UInt8
  deriving DecidableEq, Repr, Inhabited

end CheatCodes
