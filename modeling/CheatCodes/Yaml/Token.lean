import CheatCodes.Yaml.Plain
import CheatCodes.Yaml.Property
/-!
The tokens of a YAML stream. A token that could be a mapping's key is remembered with its place
until a colon on the same line makes it one; the key's mark is then put in before it. Columns open
and close blocks: the level is one more than the column of the innermost block.
-/
namespace CheatCodes.Yaml

inductive Style where
  | plain
  | single
  | double
  | literal
  | folded
  deriving DecidableEq, Repr

inductive Token where
  | directive (d : Directive)
  | documentStart
  | documentEnd
  | sequenceStart
  | mappingStart
  | blockEnd
  | flowSequenceStart
  | flowSequenceEnd
  | flowMappingStart
  | flowMappingEnd
  | entry
  | flowEntry
  | key
  | value
  | alias (id : Nat)
  | anchor (id : Nat)
  | tag (handle : List Char) (suffix : Octets)
  | scalar (style : Style) (text : List Char)
  deriving DecidableEq, Repr

/-- A token that may turn out to begin a mapping's key. -/
structure Candidate where
  /-- Nothing but a key can stand there. -/
  required : Bool
  place : Nat
  mark : Mark
  deriving DecidableEq, Repr

structure Lexer where
  rest : List Char
  mark : Mark
  /-- The tokens so far, the last one first. -/
  tokens : List Token
  level : Nat
  levels : List Nat
  /-- A key without a mark of its own may begin here. -/
  keyAllowed : Bool
  candidate : Option Candidate
  /-- The candidates around each open flow collection. -/
  outer : List (Option Candidate)
  /-- The anchors' names with the latest number of each. -/
  anchors : List (List Char × Nat)
  deriving DecidableEq, Repr

namespace Lexer

def ofChars (cs : List Char) : Lexer :=
  ⟨cs, .start, [], 0, [], true, none, [], []⟩

def inFlow (l : Lexer) : Bool :=
  !l.outer.isEmpty

def emit (l : Lexer) (t : Token) : Lexer :=
  { l with tokens := t :: l.tokens }

def goTo (l : Lexer) (rest : List Char) : Lexer :=
  { l with rest, mark := l.mark.after (l.rest.take (l.rest.length - rest.length)) }

def insert (l : Lexer) (place : Nat) (t : Token) : Lexer :=
  let later := l.tokens.length - place
  { l with tokens := l.tokens.take later ++ t :: l.tokens.drop later }

/-! Blocks. -/

/-- Closes the blocks that stand further right than a level; how many were closed. -/
def closeLevels (bound : Nat) : Nat → List Nat → Nat × Nat × List Nat
  | level, [] => (0, level, [])
  | level, parent :: levels =>
    if bound < level then
      let (closed, level, levels) := closeLevels bound parent levels
      (closed + 1, level, levels)
    else (0, level, parent :: levels)

/-- Ends the blocks that stand further right; flow collections do not mind columns. -/
def unroll (l : Lexer) (bound : Nat) : Lexer :=
  if l.inFlow then l
  else
    let (closed, level, levels) := closeLevels bound l.level l.levels
    { l with level, levels, tokens := List.replicate closed .blockEnd ++ l.tokens }

/-- Opens a block at a column further right than the last one, with its mark at a place. -/
def roll (l : Lexer) (column place : Nat) (t : Token) : Lexer :=
  if l.inFlow || column < l.level then l
  else { l.insert place t with level := column + 1, levels := l.level :: l.levels }

/-! Keys. -/

/-- A candidate goes stale on a later line or after 1024 octets; a required one may not. -/
def refresh (here : Mark) : Option Candidate → Option (Option Candidate)
  | none => some none
  | some k =>
    if k.mark.line < here.line || k.mark.octet + 1024 < here.octet then
      if k.required then none else some none
    else some (some k)

def refreshAll (l : Lexer) : Option Lexer := do
  return { l with candidate := ← refresh l.mark l.candidate, outer := ← l.outer.mapM (refresh l.mark) }

def dropCandidate (l : Lexer) : Option Lexer :=
  if l.candidate.any (·.required) then none else some { l with candidate := none }

def markCandidate (l : Lexer) : Option Lexer :=
  if l.keyAllowed then do
    let l ← l.dropCandidate
    let required := !l.inFlow && l.level == l.mark.column + 1
    return { l with candidate := some ⟨required, l.tokens.length, l.mark⟩ }
  else some l

/-! Tokens. -/

/-- Passes blanks, comments and line ends; a line end allows keys outside flow collections. The
byte order mark may begin a line. -/
def skip (inFlow : Bool) (keyAllowed margin comment : Bool) : List Char → Bool × List Char
  | [] => (keyAllowed, [])
  | c :: cs =>
    if isBreak c then skip inFlow (keyAllowed || !inFlow) true false cs
    else if comment then skip inFlow keyAllowed false true cs
    else if c == byteOrderMark && margin then skip inFlow keyAllowed false false cs
    else if c == ' ' || (c == '\t' && (inFlow || !keyAllowed)) then
      skip inFlow keyAllowed false false cs
    else if c == '#' then skip inFlow keyAllowed false true cs
    else (keyAllowed, c :: cs)

/-- Goes on to where the next token begins and ends the blocks that it does not belong to. -/
def settle (l : Lexer) : Option Lexer := do
  let (keyAllowed, rest) := skip l.inFlow l.keyAllowed (l.mark.column == 0) false l.rest
  let l ← { l.goTo rest with keyAllowed }.refreshAll
  return l.unroll (l.mark.column + 1)

def atDocument (l : Lexer) : Option Lexer :=
  ({ l.unroll 0 with keyAllowed := false }).dropCandidate

def openFlow (l : Lexer) (t : Token) (rest : List Char) : Option Lexer := do
  let l ← l.markCandidate
  return { l.emit t with candidate := none, outer := l.candidate :: l.outer, keyAllowed := true }.goTo
    rest

def closeFlow (l : Lexer) (t : Token) (rest : List Char) : Option Lexer := do
  let l ← l.dropCandidate
  let l := match l.outer with
    | candidate :: outer => { l with candidate, outer }
    | [] => l
  return { l.emit t with keyAllowed := false }.goTo rest

def separateFlow (l : Lexer) (rest : List Char) : Option Lexer := do
  let l ← l.dropCandidate
  return { l.emit .flowEntry with keyAllowed := true }.goTo rest

def startEntry (l : Lexer) (rest : List Char) : Option Lexer := do
  if !l.inFlow && !l.keyAllowed then none
  let l ← (l.roll l.mark.column l.tokens.length .sequenceStart).dropCandidate
  return { l.emit .entry with keyAllowed := true }.goTo rest

def startKey (l : Lexer) (rest : List Char) : Option Lexer := do
  if !l.inFlow && !l.keyAllowed then none
  let l ← (l.roll l.mark.column l.tokens.length .mappingStart).dropCandidate
  return { l.emit .key with keyAllowed := !l.inFlow }.goTo rest

/-- A colon before a value; the candidate becomes its key. -/
def startValue (l : Lexer) (rest : List Char) : Option Lexer :=
  match l.candidate with
  | some k =>
    let l := (l.insert k.place .key).roll k.mark.column k.place .mappingStart
    some ({ l.emit .value with candidate := none, keyAllowed := false }.goTo rest)
  | none =>
    if !l.inFlow && !l.keyAllowed then none
    else
      let l := l.roll l.mark.column l.tokens.length .mappingStart
      some ({ l.emit .value with keyAllowed := !l.inFlow }.goTo rest)

/-- A number for an anchor: how many names there are so far. -/
def anchorAs (l : Lexer) (name : List Char) : Nat × Lexer :=
  let id := (l.anchors.map (·.1)).eraseDups.length
  (id, { l with anchors := (name, id) :: l.anchors })

def fetchAnchor (l : Lexer) (rest : List Char) : Option Lexer := do
  let l ← l.markCandidate
  let (name, rest) ← readAnchor rest
  let (id, l) := l.anchorAs name
  return { l.emit (.anchor id) with keyAllowed := false }.goTo rest

def fetchAlias (l : Lexer) (rest : List Char) : Option Lexer := do
  let l ← l.markCandidate
  let (name, rest) ← readAnchor rest
  let id ← l.anchors.lookup name
  return { l.emit (.alias id) with keyAllowed := false }.goTo rest

def fetchTag (l : Lexer) : Option Lexer := do
  let l ← l.markCandidate
  let (handle, suffix, rest) ← readTag l.inFlow l.rest
  return { l.emit (.tag handle suffix) with keyAllowed := false }.goTo rest

def fetchBlock (l : Lexer) (style : Style) (rest : List Char) : Option Lexer := do
  let l ← l.dropCandidate
  let (text, rest) ← readBlock (style == .literal) l.level rest
  return { l.emit (.scalar style text) with keyAllowed := true }.goTo rest

def fetchQuoted (l : Lexer) (style : Style) (read : Option (List Char × List Char)) :
    Option Lexer := do
  let l ← l.markCandidate
  let (text, rest) ← read
  return { l.emit (.scalar style text) with keyAllowed := false }.goTo rest

/-- Keys are allowed again where a plain scalar was ended by a later line. -/
def fetchPlain (l : Lexer) : Option Lexer := do
  let l ← l.markCandidate
  let s ← readPlain l.inFlow l.level .none l.rest
  return { l.emit (.scalar .plain s.text) with keyAllowed := s.endsLine }.goTo s.rest

def fetchDirective (l : Lexer) (rest : List Char) : Option Lexer := do
  let l ← l.atDocument
  let (d, rest) ← readDirective rest
  return (l.emit (.directive d)).goTo rest

def fetch (l : Lexer) (c : Char) (cs : List Char) : Option Lexer :=
  if l.mark.column == 0 && c == '%' then l.fetchDirective cs
  else if l.mark.column == 0 && startsDocument (c :: cs) then do
    let l ← l.atDocument
    return (l.emit (if c == '-' then .documentStart else .documentEnd)).goTo (cs.drop 2)
  else if c == '[' then l.openFlow .flowSequenceStart cs
  else if c == '\x7b' then l.openFlow .flowMappingStart cs
  else if c == ']' then l.closeFlow .flowSequenceEnd cs
  else if c == '\x7d' then l.closeFlow .flowMappingEnd cs
  else if c == ',' then l.separateFlow cs
  else if c == '-' && endsWord cs then l.startEntry cs
  else if c == '?' && (l.inFlow || endsWord cs) then l.startKey cs
  else if c == ':' && (l.inFlow || endsWord cs) then l.startValue cs
  else if c == '*' then l.fetchAlias cs
  else if c == '&' then l.fetchAnchor cs
  else if c == '!' then l.fetchTag
  else if c == '|' && !l.inFlow then l.fetchBlock .literal cs
  else if c == '>' && !l.inFlow then l.fetchBlock .folded cs
  else if c == '\'' then l.fetchQuoted .single (readSingle .none cs)
  else if c == '"' then l.fetchQuoted .double (readDouble .none cs)
  else if startsPlain l.inFlow c cs then l.fetchPlain
  else none

/-- All tokens from here on; every token takes a character. -/
def run : (fuel : Nat) → Lexer → Option (List Token)
  | 0, _ => none
  | fuel + 1, l => do
    let l ← l.settle
    match l.rest with
    | [] => return (← (l.unroll 0).dropCandidate).tokens.reverse
    | c :: cs => run fuel (← l.fetch c cs)

end Lexer

def tokens? (cs : List Char) : Option (List Token) :=
  if cs.all isAllowed then
    let cs := joinBreaks cs
    (Lexer.ofChars cs).run (cs.length + 1)
  else none

end CheatCodes.Yaml
