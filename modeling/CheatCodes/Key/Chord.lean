import CheatCodes.Key.Event
import CheatCodes.Text.Blank
/-!
Chords: modifiers and a key joined by plus signs, such as `Ctrl+Shift+F1`. The plus key itself is
written as a last plus sign. A bad key is reported before a bad modifier.
-/
namespace CheatCodes

inductive Modifier where
  | ctrl
  | shift
  | alt
  deriving DecidableEq, Repr

namespace Modifier

def ofText? (text : List Char) : Option Modifier :=
  match String.ofList (text.map Char.toLower) with
  | "ctrl" | "control" => some .ctrl
  | "shift" => some .shift
  | "alt" => some .alt
  | _ => none

def hold (e : KeyEvent) : Modifier → KeyEvent
  | .ctrl => { e with ctrl := true }
  | .shift => { e with shift := true }
  | .alt => { e with alt := true }

end Modifier

namespace Chord

/-- The parts between plus signs; after a plus sign a last one stands for its key. -/
def parts (text : List Char) : List (List Char) :=
  let cut := Text.pieces (· == '+') text
  if ['+', '+'].isSuffixOf text then cut.dropLast.dropLast ++ [['+']] else cut

/-- A single character is typed, a longer name is looked up. -/
def readKey : List Char → Except KeyError KeyEvent
  | [] => .error .emptyChord
  | [c] => .ok (.typed c)
  | name => (KeyKind.read name).map .pressed

def holdAll (chord : List Char) : KeyEvent → List (List Char) → Except KeyError KeyEvent
  | e, [] => .ok e
  | e, name :: names =>
    match Modifier.ofText? name with
    | some m => holdAll chord (m.hold e) names
    | none => .error (.unknownModifier chord name)

def read (text : List Char) : Except KeyError KeyEvent :=
  if text = ['+'] then .ok (.typed '+')
  else do
    let key ← readKey ((parts text).getLastD [])
    holdAll text key (parts text).dropLast

end Chord

end CheatCodes
