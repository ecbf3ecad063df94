import CheatCodes.Yaml.Block
import CheatCodes.Yaml.Quoted
/-!
What may stand before a node or a document: anchors, tags and directives. Tags may spell octets of
UTF-8 as a percent sign and two hexadecimal digits.
-/
namespace CheatCodes.Yaml

def readName (cs : List Char) : Option (List Char × List Char) :=
  let name := cs.takeWhile isWordChar
  if name.isEmpty then none else some (name, cs.dropWhile isWordChar)

def readAnchor (cs : List Char) : Option (List Char × List Char) := do
  let (name, rest) ← readName cs
  if endsWord rest || rest.head?.any ['?', ':', ',', ']', '\x7d', '%', '@', '\x60'].contains then
    some (name, rest)
  else none

/-- The characters of a tag; some more may stand in one that is delimited. -/
def isTagChar (delimited : Bool) (c : Char) : Bool :=
  isWordChar c ||
    [';', '/', '?', ':', '@', '&', '=', '+', '$', '.', '%', '!', '~', '*', '\'', '(', ')'].contains
      c ||
    (delimited && [',', '[', ']'].contains c)

/-- A tag or a part of one; escapes may spell octets that are no text. -/
abbrev Octets := List UInt8

def octets (cs : List Char) : Octets :=
  cs.flatMap String.utf8EncodeChar

def readOctet : List Char → Option (UInt8 × List Char)
  | '%' :: a :: b :: cs => (hexValue? [a, b]).map fun octet => (octet.toUInt8, cs)
  | _ => none

/-- How many octets of UTF-8 follow a leading one. -/
def following? (octet : UInt8) : Option Nat :=
  if octet < 0x80 then some 0
  else if 0xC0 ≤ octet ∧ octet < 0xE0 then some 1
  else if 0xE0 ≤ octet ∧ octet < 0xF0 then some 2
  else if 0xF0 ≤ octet ∧ octet < 0xF8 then some 3
  else none

def readFollowing : Nat → List Char → Option (Octets × List Char)
  | 0, cs => some ([], cs)
  | n + 1, cs => do
    let (octet, cs) ← readOctet cs
    if octet < 0x80 ∨ 0xC0 ≤ octet then none
    let (octets, cs) ← readFollowing n cs
    return (octet :: octets, cs)

/-- The octets of an escaped character, which must announce how many they are. -/
def readTagEscape (cs : List Char) : Option (Octets × List Char) := do
  let (octet, cs) ← readOctet cs
  let (octets, cs) ← readFollowing (← following? octet) cs
  return (octet :: octets, cs)

def readTagText (delimited : Bool) : (fuel : Nat) → List Char → Option (Octets × List Char)
  | 0, _ => none
  | fuel + 1, cs =>
    match cs with
    | [] => some ([], [])
    | c :: rest =>
      if !isTagChar delimited c then some ([], c :: rest)
      else do
        let (front, rest) ← if c = '%' then readTagEscape cs else some (octets [c], rest)
        let (text, rest) ← readTagText delimited fuel rest
        return (front ++ text, rest)

/-- A tag ends at an escaped null. -/
def untilNull (text : Octets) : Octets :=
  text.takeWhile (· != 0)

/-- A tag's handle and suffix. A handle stands between exclamation marks; a tag without one has the
handle `!`, a delimited one and the tag `!` itself have none. -/
def readTag (inFlow : Bool) (cs : List Char) : Option (List Char × Octets × List Char) := do
  let (handle, suffix, rest) ←
    match cs with
    | '!' :: '<' :: cs => do
      let (text, rest) ← readTagText true (cs.length + 1) cs
      if text.isEmpty || rest.head? != some '>' then none else some ([], untilNull text, rest.tail)
    | '!' :: cs => do
      let name := cs.takeWhile isWordChar
      let after := cs.dropWhile isWordChar
      if after.head? = some '!' then
        let (text, rest) ← readTagText false (cs.length + 1) after.tail
        if text.isEmpty then none else some ('!' :: (name ++ ['!']), untilNull text, rest)
      else
        let (text, rest) ← readTagText false (cs.length + 1) after
        let suffix := untilNull (octets name ++ text)
        if suffix.isEmpty then some ([], octets ['!'], rest) else some (['!'], suffix, rest)
    | _ => none
  if endsWord rest || (inFlow && rest.head? = some ',') then some (handle, suffix, rest) else none

inductive Directive where
  | version (major minor : Nat)
  | tag (handle : List Char) (lead : Octets)
  deriving DecidableEq, Repr

def readVersionNumber (cs : List Char) : Option (Nat × List Char) :=
  let digits := cs.takeWhile Char.isDigit
  if digits.isEmpty || 9 < digits.length then none
  else some (digits.foldl (fun n c => n * 10 + (c.toNat - '0'.toNat)) 0, cs.dropWhile Char.isDigit)

/-- The directive after its mark, and what follows its line. -/
def readDirective (cs : List Char) : Option (Directive × List Char) := do
  let (name, cs) ← readName cs
  if !endsWord cs then none
  let cs := cs.dropWhile isBlank
  match String.ofList name with
  | "YAML" =>
    let (major, cs) ← readVersionNumber cs
    if cs.head? ≠ some '.' then none
    let (minor, cs) ← readVersionNumber cs.tail
    return (.version major minor, ← skipLineEnd cs)
  | "TAG" =>
    if cs.head? ≠ some '!' then none
    let name := cs.tail.takeWhile isWordChar
    let after := cs.tail.dropWhile isWordChar
    let (handle, rest) ←
      if after.head? = some '!' then some ('!' :: (name ++ ['!']), after.tail)
      else if name.isEmpty then some (['!'], after)
      else none
    if !(rest.head?.any isBlank) then none
    let (lead, rest) ← readTagText true (cs.length + 1) (rest.dropWhile isBlank)
    if lead.isEmpty || !endsWord rest then none
    return (.tag handle (untilNull lead), ← skipLineEnd rest)
  | _ => none

end CheatCodes.Yaml
