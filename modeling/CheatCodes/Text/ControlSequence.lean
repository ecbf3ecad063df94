/-!
What a terminal would draw of a text: neither control characters nor the control sequences that an
escape character begins. White characters of ASCII are drawn also inside a sequence. A text that is
told ends the sequence there; a stream that is written to only suspends it.
-/
namespace CheatCodes.Text

inductive ControlState where
  | ground
  | escape
  /-- After the escape character and a mark that one more character follows. -/
  | marked
  /-- In parameters, which a letter ends. -/
  | parameters
  /-- In a system command, which the bell ends. -/
  | command
  /-- After the opening of a device string, in its parameters and after them. -/
  | device
  | deviceParameters
  | deviceMarked
  /-- In a string that is ended by the string terminator. -/
  | string
  deriving DecidableEq, Repr

namespace ControlState

/-- One of the octets after the first that spell a character in UTF-8 is 9C, the terminator. -/
def spellsTerminator (code : Nat) : Bool :=
  (0x80 ≤ code && code % 64 == 0x1C) || (0x800 ≤ code && code / 64 % 64 == 0x1C) ||
    (0x10000 ≤ code && code / 4096 % 64 == 0x1C)

/-- The state after a character that no rule for all states covers. -/
def next (code : Nat) : ControlState → ControlState
  | .ground => .ground
  | .escape =>
    if 0x20 ≤ code && code ≤ 0x2F then .marked
    else if code == '['.toNat then .parameters
    else if code == ']'.toNat then .command
    else if code == 'P'.toNat then .device
    else if code == 'X'.toNat || code == '^'.toNat || code == '_'.toNat then .string
    else if 0x30 ≤ code && code ≤ 0x7E then .ground
    else .escape
  | .marked => if 0x30 ≤ code && code ≤ 0x7E then .ground else .marked
  | .parameters => if 0x40 ≤ code && code ≤ 0x7E then .ground else .parameters
  | .command => if code == 0x07 then .ground else .command
  | .device =>
    if 0x20 ≤ code && code ≤ 0x2F then .deviceMarked
    else if 0x30 ≤ code && code ≤ 0x3F then .deviceParameters
    else if 0x40 ≤ code && code ≤ 0x7E then .string
    else .device
  | .deviceParameters =>
    if 0x20 ≤ code && code ≤ 0x2F then .deviceMarked
    else if 0x3C ≤ code && code ≤ 0x7E then .string
    else .deviceParameters
  | .deviceMarked => if 0x30 ≤ code && code ≤ 0x7E then .string else .deviceMarked
  | .string => if spellsTerminator code then .ground else .string

/-- The reader passes over white characters in these states, and draws them in the others. -/
def isOpaque : ControlState → Bool
  | .command | .device | .deviceParameters | .deviceMarked | .string => true
  | .ground | .escape | .marked | .parameters => false

/-- A tab, a line or form feed or a carriage return. -/
def isWhiteControl (code : Nat) : Bool :=
  code == 0x09 || code == 0x0A || code == 0x0C || code == 0x0D

def pass (s : ControlState) (code : Nat) : ControlState :=
  if code == 0x18 || code == 0x1A then .ground
  else if code == 0x1B then .escape
  else s.next code

def isDrawn (code : Nat) : Bool :=
  isWhiteControl code || (0x20 ≤ code && code != 0x7F)

end ControlState

inductive Interruption where
  | ends
  /-- The sequence goes on at the next character that is not drawn. -/
  | suspends
  deriving DecidableEq, Repr

structure ControlReader where
  state : ControlState
  suspended : Bool
  deriving DecidableEq, Repr

namespace ControlReader

def start : ControlReader := ⟨.ground, false⟩

/-- The reader after a character, and whether the character is drawn. What is drawn and no ASCII
ends a suspended sequence. -/
def pass (i : Interruption) (r : ControlReader) (c : Char) : ControlReader × Bool :=
  let code := c.toNat
  if ControlState.isDrawn code && (r.suspended || r.state == .ground) then
    (if code < 0x80 then r else start, true)
  else if ControlState.isWhiteControl code && !r.state.isOpaque then
    (if i = .ends then start else ⟨r.state, true⟩, true)
  else (⟨r.state.pass code, false⟩, false)

def drawn (i : Interruption) (r : ControlReader) : List Char → List Char
  | [] => []
  | c :: cs =>
    let (r, isDrawn) := r.pass i c
    if isDrawn then c :: drawn i r cs else drawn i r cs

end ControlReader

def drawn (i : Interruption) (s : String) : String :=
  String.ofList (ControlReader.start.drawn i s.toList)

end CheatCodes.Text
