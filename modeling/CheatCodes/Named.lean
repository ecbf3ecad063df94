/-!
Finite kinds whose members go by a name. A member is found again by its name.
-/
namespace CheatCodes

class Named (α : Type) where
  members : List α
  name : α → String
  find_name : ∀ a, members.find? (fun b => name b == name a) = some a

namespace Named

variable {α : Type} [Named α]

def ofName? (s : String) : Option α :=
  (members (α := α)).find? (fun a => name a == s)

@[simp] theorem ofName?_name (a : α) : ofName? (name a) = some a :=
  find_name a

end Named

end CheatCodes
