import CheatCodes.Named
import CheatCodes.Text.Numeral
/-!
Kinds of keys and the names they are typed by. Names are compared without regard to ASCII case;
a function key is an `f` and its number.
-/
namespace CheatCodes

/-- Printable input is always of kind `char`. -/
inductive KeyKind where
  | invalid
  | special
  | escape
  | enter
  | space
  | left
  | up
  | right
  | down
  | back
  | delete
  | shift
  | tab
  | endKey
  | home
  | f1
  | f2
  | f3
  | f4
  | f5
  | f6
  | f7
  | f8
  | f9
  | f10
  | f11
  | f12
  | char
  deriving DecidableEq, Repr, Inhabited

namespace KeyKind

instance : Named KeyKind where
  members := [.invalid, .special, .escape, .enter, .space, .left, .up, .right, .down, .back,
    .delete, .shift, .tab, .endKey, .home, .f1, .f2, .f3, .f4, .f5, .f6, .f7, .f8, .f9, .f10,
    .f11, .f12, .char]
  name
    | .invalid => "Invalid"
    | .special => "Special"
    | .escape => "Escape"
    | .enter => "Return"
    | .space => "Space"
    | .left => "Left"
    | .up => "Up"
    | .right => "Right"
    | .down => "Down"
    | .back => "Back"
    | .delete => "Delete"
    | .shift => "Shift"
    | .tab => "Tab"
    | .endKey => "End"
    | .home => "Home"
    | .f1 => "F1"
    | .f2 => "F2"
    | .f3 => "F3"
    | .f4 => "F4"
    | .f5 => "F5"
    | .f6 => "F6"
    | .f7 => "F7"
    | .f8 => "F8"
    | .f9 => "F9"
    | .f10 => "F10"
    | .f11 => "F11"
    | .f12 => "F12"
    | .char => "Char"
  find_name a := by cases a <;> rfl

def functionKeys : List KeyKind :=
  [.f1, .f2, .f3, .f4, .f5, .f6, .f7, .f8, .f9, .f10, .f11, .f12]

/-- The place among the function keys, from zero. -/
def functionIndex? (k : KeyKind) : Option Nat :=
  functionKeys.findIdx? (· == k)

def ofNumber? (digits : List Char) : Option KeyKind :=
  match Text.readNatural functionKeys.length digits with
  | .ok (n + 1) => functionKeys[n]?
  | _ => none

def ofLower? (name : List Char) : Option KeyKind :=
  match String.ofList name with
  | "escape" | "esc" => some .escape
  | "return" | "enter" => some .enter
  | "space" => some .space
  | "left" => some .left
  | "up" => some .up
  | "right" => some .right
  | "down" => some .down
  | "back" | "backspace" => some .back
  | "delete" | "del" => some .delete
  | "shift" => some .shift
  | "tab" => some .tab
  | "end" => some .endKey
  | "home" => some .home
  | _ =>
    match name with
    | 'f' :: digits => ofNumber? digits
    | _ => none

def ofText? (text : List Char) : Option KeyKind :=
  ofLower? (text.map Char.toLower)

end KeyKind

end CheatCodes
