import CheatCodes.Key.Chord
/-!
Key scripts such as `winter <F7> <Alt+1>`: words apart by blanks, each either a chord in angle
brackets or characters to type. The first bad word is reported.
-/
namespace CheatCodes.Script

def readWord : List Char → Except KeyError (List KeyEvent)
  | '<' :: rest =>
    if rest.getLast? = some '>' then (Chord.read rest.dropLast).map ([·])
    else .error (.unterminated ('<' :: rest))
  | word => .ok (word.map .typed)

def readWords : List (List Char) → Except KeyError (List KeyEvent)
  | [] => .ok []
  | word :: rest => do
    let events ← readWord word
    return events ++ (← readWords rest)

def read (script : List Char) : Except KeyError (List KeyEvent) :=
  readWords (Text.words script)

def word (e : KeyEvent) : List Char :=
  '<' :: (e.text ++ ['>'])

end CheatCodes.Script
