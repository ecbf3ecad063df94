import CheatCodes.Yaml.Gap
/-!
Quoted scalars. Between single quotes a quote is written twice; between double quotes a backslash
begins an escape, and before a line end it joins the lines.
-/
namespace CheatCodes.Yaml

/-- Reads on after a gap, to behind the closing quote. -/
def readSingle (gap : Gap) : List Char → Option (List Char × List Char)
  | [] => none
  | '\'' :: '\'' :: cs => (readSingle .none cs).map fun r => (gap.text ++ '\'' :: r.1, r.2)
  | '\'' :: cs => some (gap.text, cs)
  | c :: cs =>
    if isBreak c then readSingle (gap.newline c) cs
    else if isBlank c then readSingle (gap.blank c) cs
    else if gap.atMargin && startsDocument (c :: cs) then none
    else (readSingle .none cs).map fun r => (gap.text ++ c :: r.1, r.2)

def shortEscape? : Char → Option Char
  | '0' => some '\x00'
  | 'a' => some '\x07'
  | 'b' => some '\x08'
  | 't' | '\t' => some '\t'
  | 'n' => some '\n'
  | 'v' => some '\x0b'
  | 'f' => some '\x0c'
  | 'r' => some '\x0d'
  | 'e' => some '\x1b'
  | ' ' => some ' '
  | '"' => some '"'
  | '/' => some '/'
  | '\\' => some '\\'
  | 'N' => some '\x85'
  | '_' => some '\xa0'
  | 'L' => some '\u2028'
  | 'P' => some '\u2029'
  | _ => none

def hexDigit? (c : Char) : Option Nat :=
  if '0' ≤ c ∧ c ≤ '9' then some (c.toNat - '0'.toNat)
  else if 'a' ≤ c ∧ c ≤ 'f' then some (c.toNat - 'a'.toNat + 10)
  else if 'A' ≤ c ∧ c ≤ 'F' then some (c.toNat - 'A'.toNat + 10)
  else none

def hexValue? (digits : List Char) : Option Nat :=
  digits.foldlM (fun value c => (hexDigit? c).map (value * 16 + ·)) 0

def ofHex? (digits : List Char) : Option Char :=
  match hexValue? digits with
  | some code => if code.isValidChar then some (Char.ofNat code) else none
  | none => none

def readDouble (gap : Gap) : List Char → Option (List Char × List Char)
  | [] => none
  | '"' :: cs => some (gap.text, cs)
  | '\\' :: 'x' :: a :: b :: cs => do
    let c ← ofHex? [a, b]
    (readDouble .none cs).map fun r => (gap.text ++ c :: r.1, r.2)
  | '\\' :: 'u' :: a :: b :: d :: e :: cs => do
    let c ← ofHex? [a, b, d, e]
    (readDouble .none cs).map fun r => (gap.text ++ c :: r.1, r.2)
  | '\\' :: 'U' :: a :: b :: d :: e :: f :: g :: h :: i :: cs => do
    let c ← ofHex? [a, b, d, e, f, g, h, i]
    (readDouble .none cs).map fun r => (gap.text ++ c :: r.1, r.2)
  | '\\' :: c :: cs =>
    if isBreak c then (readDouble .escaped cs).map fun r => (gap.text ++ r.1, r.2)
    else
      match shortEscape? c with
      | some c => (readDouble .none cs).map fun r => (gap.text ++ c :: r.1, r.2)
      | none => none
  | c :: cs =>
    if isBreak c then readDouble (gap.newline c) cs
    else if isBlank c then readDouble (gap.blank c) cs
    else if (gap.atMargin && startsDocument (c :: cs)) || c == '\\' then none
    else (readDouble .none cs).map fun r => (gap.text ++ c :: r.1, r.2)

end CheatCodes.Yaml
