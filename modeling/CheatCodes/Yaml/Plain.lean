import CheatCodes.Yaml.Gap
/-!
Plain scalars, which carry no marks of their own: they end at a comment, at a colon before a blank,
left of their block, or at the punctuation of a flow collection.
-/
namespace CheatCodes.Yaml

def clashesWithColon : List Char → Bool
  | c :: _ => [',', '?', '[', ']', '\x7b', '\x7d'].contains c
  | [] => false

/-- Where a scalar that begins with `c` stands, nothing else can be meant. -/
def startsPlain (inFlow : Bool) (c : Char) (cs : List Char) : Bool :=
  !(isBlank c || isBreak c ||
      ['-', '?', ':', ',', '[', ']', '\x7b', '\x7d', '#', '&', '*', '!', '|', '>', '\'', '"', '%',
        '@', '\x60'].contains c) ||
    (c == '-' && !(cs.head?.any isBlank)) ||
    (!inFlow && (c == '?' || c == ':') && !endsWord cs)

structure PlainScalar where
  text : List Char
  /-- The scalar was ended by something in a later line. -/
  endsLine : Bool
  rest : List Char
  deriving DecidableEq, Repr

/-- Reads on after a gap, in a block whose lines begin at column `level` or further right. -/
def readPlain (inFlow : Bool) (level : Nat) (gap : Gap) : List Char → Option PlainScalar
  | [] => some ⟨[], gap.hasLines, []⟩
  | c :: cs =>
    if isBreak c then readPlain inFlow level (gap.newline c) cs
    else if isBlank c then
      if c == '\t' && gap.endsLeftOf level then none
      else readPlain inFlow level (gap.blank c) cs
    else if (gap.endsLeftOf level && !inFlow) || (gap.atMargin && startsDocument (c :: cs)) ||
        (c == '#' && gap != .none) then
      some ⟨[], gap.hasLines, c :: cs⟩
    else if inFlow && c == ':' && clashesWithColon cs then none
    else if (c == ':' && endsWord cs) ||
        (inFlow && [',', '[', ']', '\x7b', '\x7d'].contains c) then
      some ⟨[], gap.hasLines, c :: cs⟩
    else
      (readPlain inFlow level .none cs).map fun s => { s with text := gap.text ++ c :: s.text }

end CheatCodes.Yaml
