import CheatCodes.Yaml.Character
/-!
Block scalars: lines that stand further right than their parent. A header tells whether lines are
folded, how far in they stand and which of the last line ends are kept.
-/
namespace CheatCodes.Yaml

/-- Which of the last line ends are kept: one, none or all. -/
inductive Chomp where
  | clip
  | strip
  | keep
  deriving DecidableEq, Repr

def Chomp.ofChar? : Char → Option Chomp
  | '+' => some .keep
  | '-' => some .strip
  | _ => none

/-- The rest of a line that holds no more than blanks and a comment, and the line end. -/
def skipLineEnd (cs : List Char) : Option (List Char) :=
  let cs := cs.dropWhile isBlank
  let cs := if cs.head? = some '#' then cs.dropWhile (!isBreak ·) else cs
  match cs with
  | [] => some []
  | c :: cs => if isBreak c then some cs else none

/-- The indicators after the mark of a block scalar, in either order; no depth is 0. -/
def readBlockHeader (cs : List Char) : Option (Chomp × Nat × List Char) :=
  let depth (cs : List Char) : Option (Nat × List Char) :=
    match cs with
    | d :: rest => if d.isDigit then if d = '0' then none else some (d.toNat - '0'.toNat, rest)
      else some (0, d :: rest)
    | [] => some (0, [])
  let chomp (cs : List Char) : Chomp × List Char :=
    match cs with
    | c :: rest => match Chomp.ofChar? c with
      | some kept => (kept, rest)
      | none => (.clip, c :: rest)
    | [] => (.clip, [])
  if (cs.head?.bind Chomp.ofChar?).isSome then do
    let (kept, cs) := chomp cs
    let (depth, cs) ← depth cs
    return (kept, depth, ← skipLineEnd cs)
  else do
    let (depth, cs) ← depth cs
    let (kept, cs) := if depth = 0 then (.clip, cs) else chomp cs
    return (kept, depth, ← skipLineEnd cs)

/-- Lines without content, and where the next one with content begins. -/
structure BlockMargin where
  breaks : List Char
  column : Nat
  deepest : Nat
  rest : List Char
  deriving DecidableEq, Repr

/-- Skips line ends and the spaces before column `indent`; all spaces while that is 0. -/
def readMargin (indent column deepest : Nat) (breaks : List Char) :
    List Char → Option BlockMargin
  | [] => some ⟨breaks, column, max deepest column, []⟩
  | c :: cs =>
    if c == ' ' && (indent == 0 || column < indent) then
      readMargin indent (column + 1) deepest breaks cs
    else if c == '\t' && (indent == 0 || column < indent) then none
    else if isBreak c then readMargin indent 0 (max deepest column) (breaks ++ [c]) cs
    else some ⟨breaks, column, max deepest column, c :: cs⟩

/-- What joins a line to the content before it: the line end that closed that content and the
empty lines in between. A folded line end becomes a space, or goes if empty lines follow it. -/
def joint (literal spaced : Bool) (closing empty : List Char) : List Char :=
  if !literal && !spaced && closing.head? = some '\n' then
    if empty.isEmpty then [' '] else empty
  else closing ++ empty

/-- The content lines from a margin on, the line end that closes the last and what follows. -/
def readLines (literal : Bool) (indent : Nat) :
    (fuel : Nat) → (spaced : Bool) → (closing : List Char) → BlockMargin →
    Option (List Char × List Char × BlockMargin)
  | 0, _, _, _ => none
  | fuel + 1, spaced, closing, margin =>
    if margin.column = indent ∧ margin.rest ≠ [] then do
      let starts := margin.rest.head?.any isBlank
      let line := margin.rest.takeWhile (!isBreak ·)
      let after := margin.rest.dropWhile (!isBreak ·)
      let next ← readMargin indent 0 0 [] (after.drop 1)
      let (text, last) ← readLines literal indent fuel starts (after.take 1) next
      return (joint literal (spaced || starts) closing margin.breaks ++ line ++ text, last)
    else some ([], closing, margin)

def readBlock (literal : Bool) (level : Nat) (cs : List Char) :
    Option (List Char × List Char) := do
  let (chomp, depth, cs) ← readBlockHeader cs
  let given := if depth = 0 then 0 else level - 1 + depth
  let margin ← readMargin given 0 0 [] cs
  let indent := if given = 0 then max margin.deepest (max level 1) else given
  let (text, closing, last) ← readLines literal indent (cs.length + 1) false [] margin
  let kept :=
    match chomp with
    | .clip => closing
    | .strip => []
    | .keep => closing ++ last.breaks
  return (text ++ kept, last.rest)

end CheatCodes.Yaml
