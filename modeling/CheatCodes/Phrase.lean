/-!
Following a phrase through the characters that are typed. A character that does not continue the
phrase may begin it anew, and nothing else of what came before is kept.
-/
namespace CheatCodes

structure PhraseMatcher where
  phrase : List Char
  progress : Nat
  deriving DecidableEq, Repr

namespace PhraseMatcher

def ofPhrase (phrase : String) : PhraseMatcher :=
  ⟨phrase.toList, 0⟩

def reset (m : PhraseMatcher) : PhraseMatcher :=
  { m with progress := 0 }

/-- One more match; a whole phrase is reported and begins again. -/
def advance (m : PhraseMatcher) (matched : Nat) : Bool × PhraseMatcher :=
  if matched + 1 < m.phrase.length then (false, { m with progress := matched + 1 })
  else (true, m.reset)

/-- Whether a typed character completes the phrase, and the match after it. -/
def type (m : PhraseMatcher) (c : Char) : Bool × PhraseMatcher :=
  if m.phrase[m.progress]? = some c then m.advance m.progress
  else if m.phrase[0]? = some c then m.advance 0
  else (false, m.reset)

end PhraseMatcher

end CheatCodes
