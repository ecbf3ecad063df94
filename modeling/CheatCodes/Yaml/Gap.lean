import CheatCodes.Yaml.Character
/-!
The gaps between the words of a scalar that runs over lines. Blanks within a line are kept; around
line ends they go, a single line end becomes a space, and of several the first goes.
-/
namespace CheatCodes.Yaml

inductive Gap where
  | inline (blanks : List Char)
  /-- Line ends, with the column reached after the last; an escaped line end folds nothing. -/
  | lines (folds : Bool) (breaks : List Char) (column : Nat)
  deriving DecidableEq, Repr

namespace Gap

def none : Gap := .inline []

def escaped : Gap := .lines false [] 0

def blank (c : Char) : Gap → Gap
  | .inline blanks => .inline (blanks ++ [c])
  | .lines folds breaks column => .lines folds breaks (column + 1)

def newline (c : Char) : Gap → Gap
  | .inline _ => .lines true [c] 0
  | .lines folds breaks _ => .lines folds (breaks ++ [c]) 0

def text : Gap → List Char
  | .inline blanks => blanks
  | .lines true ['\n'] _ => [' ']
  | .lines true ('\n' :: more) _ => more
  | .lines _ breaks _ => breaks

def atMargin : Gap → Bool
  | .lines _ _ 0 => true
  | _ => false

def hasLines : Gap → Bool
  | .lines .. => true
  | .inline _ => false

def endsLeftOf (level : Nat) : Gap → Bool
  | .lines _ _ column => column < level
  | .inline _ => false

end Gap

end CheatCodes.Yaml
