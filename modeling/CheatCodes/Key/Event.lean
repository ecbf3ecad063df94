import CheatCodes.Key.Kind
import CheatCodes.Text.Quoted
/-!
Key presses, their text, and what can be wrong with a typed one. The text of a key press names its
modifiers in a fixed order and then the key.
-/
namespace CheatCodes

/-- One key press; the character only matters for kind `char`. -/
structure KeyEvent where
  kind : KeyKind
  c : Char
  ctrl : Bool
  shift : Bool
  alt : Bool
  deriving DecidableEq, Repr, Inhabited

namespace KeyEvent

def typed (c : Char) : KeyEvent :=
  ⟨.char, c, false, false, false⟩

def pressed (kind : KeyKind) : KeyEvent :=
  ⟨kind, '\x00', false, false, false⟩

def isChar (e : KeyEvent) : Bool :=
  e.kind = .char

def keyText (e : KeyEvent) : List Char :=
  if e.kind = .char then [e.c] else (Named.name e.kind).toList

def text (e : KeyEvent) : List Char :=
  (if e.ctrl then "Ctrl+".toList else []) ++ (if e.shift then "Shift+".toList else []) ++
    (if e.alt then "Alt+".toList else []) ++ e.keyText

end KeyEvent

inductive KeyError where
  | unknownKey (name : List Char)
  | unknownModifier (chord modifier : List Char)
  | emptyChord
  | unterminated (word : List Char)
  deriving DecidableEq, Repr

def KeyError.message (e : KeyError) : String :=
  let shown cs := String.ofList (Text.quotedChars cs)
  match e with
  | .unknownKey name => "unknown key name: " ++ shown name
  | .unknownModifier chord modifier =>
    "unknown modifier " ++ shown modifier ++ " in chord " ++ shown chord
  | .emptyChord => "empty chord"
  | .unterminated word => "unterminated chord starting at " ++ shown word

def KeyKind.read (text : List Char) : Except KeyError KeyKind :=
  match ofText? text with
  | some kind => .ok kind
  | none => .error (.unknownKey text)

end CheatCodes
