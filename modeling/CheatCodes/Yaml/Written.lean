import CheatCodes.Yaml.Document
/-!
Writing texts as YAML scalars. A text is written plain where nothing else could be read from it,
in literal lines where it has several, and between quotes otherwise.
-/
namespace CheatCodes.Yaml

/-! Texts that would be read as another kind when plain. -/

def isBoolWord (text : List Char) : Bool :=
  ["true", "True", "TRUE", "false", "False", "FALSE"].any (·.toList == text)

/-- A whole number of 128 bits in one of the notations, with its sign. -/
def isWholeNumber (text : List Char) : Bool :=
  (readUnsigned text).any (· < Nat.pow 2 128) ||
    match text with
    | '-' :: digits => digits.head? != some '+' && !hasIdleZero text &&
        (readUnsigned digits).any (· ≤ Nat.pow 2 127)
    | _ => false

def spanDigits (cs : List Char) : List Char × List Char :=
  (cs.takeWhile Char.isDigit, cs.dropWhile Char.isDigit)

def dropSign (cs : List Char) : List Char :=
  match cs with
  | '+' :: rest | '-' :: rest => rest
  | _ => cs

def digitsValue (digits : List Char) : Nat :=
  digits.foldl (fun n c => n * 10 + (c.toNat - '0'.toNat)) 0

def readDecimal (text : List Char) : Option (Nat × Int) :=
  let (whole, rest) := spanDigits (dropSign text)
  let (fraction, rest) :=
    match rest with
    | '.' :: cs => spanDigits cs
    | _ => ([], rest)
  if whole.isEmpty && fraction.isEmpty then none
  else
    let value := digitsValue (whole ++ fraction)
    let shift : Int := -fraction.length
    match rest with
    | [] => some (value, shift)
    | e :: cs =>
      if e == 'e' || e == 'E' then
        let (digits, rest) := spanDigits (dropSign cs)
        if digits.isEmpty || !rest.isEmpty then none
        else
          let exponent : Int := digitsValue digits
          some (value, shift + if cs.head? = some '-' then -exponent else exponent)
      else none

/-- The number rounds to a finite binary one of 64 bits: it is less than halfway from the largest
to the next power of two. -/
def isFinite (significand : Nat) (exponent : Int) : Bool :=
  let limit := Nat.pow 2 1024 - Nat.pow 2 970
  if significand = 0 then true
  else if 0 ≤ exponent then
    exponent ≤ 400 && significand * Nat.pow 10 exponent.toNat < limit
  else
    let digits := (Nat.toDigits 10 significand).length
    (digits : Int) + exponent ≤ 300 || significand < limit * Nat.pow 10 (-exponent).toNat

def isSpecialFloat (text : List Char) : Bool :=
  [".inf", ".Inf", ".INF", "+.inf", "+.Inf", "+.INF", "-.inf", "-.Inf", "-.INF", ".nan", ".NaN",
    ".NAN"].any (·.toList == text)

def isFloat (text : List Char) : Bool :=
  isSpecialFloat text || (readDecimal text).any fun n => isFinite n.1 n.2

/-- As a plain scalar the text would be read as something else than text. -/
def isAmbiguous (text : List Char) : Bool :=
  text.isEmpty || isNullWord text || isBoolWord text || isWholeNumber text ||
    hasIdleZero text || isFloat text

/-! What a text holds that a style cannot. -/

def isWritable (c : Char) : Bool :=
  let code := c.toNat
  code == 0x0A || (0x20 ≤ code && code ≤ 0x7E) || (0xA0 ≤ code && code ≤ 0xFFFD && code != 0xFEFF) ||
    0x10000 ≤ code

theorem isBlank_of_isWritable {c : Char} (writable : isWritable c = true) (space : c ≠ ' ') :
    isBlank c = false := by
  have tab : c ≠ '\t' := by
    intro tab
    rw [tab] at writable
    exact absurd writable (by decide)
  simp [isBlank, space, tab]

def hasLines (text : List Char) : Bool :=
  text.any isBreak

def isLineEnd (c : Char) : Bool :=
  isBreak c || c == '\x0d' || c == '\x85'

def hasPair (first second : Char → Bool) : List Char → Bool
  | a :: b :: cs => (first a && second b) || hasPair first second (b :: cs)
  | _ => false

@[simp] theorem hasPair_cons (first second : Char → Bool) (c : Char) (cs : List Char) :
    hasPair first second (c :: cs) =
      (first c && cs.head?.any second || hasPair first second cs) := by
  cases cs <;> simp [hasPair]

def endsWith (holds : Char → Bool) (text : List Char) : Bool :=
  text.getLast?.any holds

@[simp] theorem endsWith_cons (holds : Char → Bool) (c : Char) (cs : List Char) :
    endsWith holds (c :: cs) = if cs = [] then holds c else endsWith holds cs := by
  cases cs <;> simp [endsWith, List.getLast?_cons]

def hasMarks (text : List Char) : Bool :=
  let opens :=
    match text with
    | '-' :: '-' :: '-' :: _ | '.' :: '.' :: '.' :: _ => true
    | c :: rest =>
      ['#', ',', '[', ']', '\x7b', '\x7d', '&', '*', '!', '|', '>', '\'', '"', '%', '@',
        '\x60'].contains c || (['-', '?', ':'].contains c && endsWord rest)
    | [] => false
  let blankOrBreak c := isBlank c || isBreak c
  opens || hasPair (· == ':') blankOrBreak text || endsWith (· == ':') text ||
    hasPair blankOrBreak (· == '#') text

def allowsPlain (text : List Char) : Bool :=
  text.all isWritable && !hasLines text && !hasMarks text && text.head? != some ' ' &&
    !endsWith (· == ' ') text

/-- A line of the text ends with a space that its line end would hide. -/
def hasTrailingSpace (text : List Char) : Bool :=
  hasPair (· == ' ') isBreak text

def allowsSingle (text : List Char) : Bool :=
  text.all isWritable && !hasTrailingSpace text && !hasPair isBreak (· == ' ') text

def allowsLiteral (text : List Char) : Bool :=
  text.all isWritable && !hasTrailingSpace text && !endsWith (· == ' ') text

/-- The style of a text; a key that is to stand on its value's line has one line. -/
def styleOf (isKey : Bool) (text : List Char) : Style :=
  if text.contains '\n' then
    if isKey || !allowsLiteral text then .double else .literal
  else if !isAmbiguous text && allowsPlain text then .plain
  else if allowsSingle text && !(isKey && hasLines text) then .single
  else .double

/-! The styles. -/

def hexDigits : Nat → Nat → List Char
  | 0, _ => []
  | n + 1, code => hexDigits n (code / 16) ++ [(Nat.digitChar (code % 16)).toUpper]

def escaped (c : Char) : List Char :=
  match c with
  | '\x00' => ['\\', '0']
  | '\x07' => ['\\', 'a']
  | '\x08' => ['\\', 'b']
  | '\t' => ['\\', 't']
  | '\n' => ['\\', 'n']
  | '\x0b' => ['\\', 'v']
  | '\x0c' => ['\\', 'f']
  | '\x0d' => ['\\', 'r']
  | '\x1b' => ['\\', 'e']
  | '"' => ['\\', '"']
  | '\\' => ['\\', '\\']
  | '\x85' => ['\\', 'N']
  | '\u2028' => ['\\', 'L']
  | '\u2029' => ['\\', 'P']
  | c =>
    let code := c.toNat
    if isWritable c then [c]
    else if code ≤ 0xFF then '\\' :: 'x' :: hexDigits 2 code
    else if code ≤ 0xFFFF then '\\' :: 'u' :: hexDigits 4 code
    else '\\' :: 'U' :: hexDigits 8 code

def writeDouble (text : List Char) : List Char :=
  '"' :: (text.flatMap escaped ++ ['"'])

def indentation (depth : Nat) : List Char :=
  List.replicate depth ' '

/-- The lines after the first stand `depth` columns in; `margin` tells that one has just begun. -/
def writeSingleRest (depth : Nat) (margin : Bool) : List Char → List Char
  | [] => (if margin then indentation depth else []) ++ ['\'']
  | c :: cs =>
    if isBreak c then
      (if !margin && c == '\n' then ['\n'] else []) ++ c :: writeSingleRest depth true cs
    else
      (if margin then indentation depth else []) ++
        (if c == '\'' then ['\'', '\''] else [c]) ++ writeSingleRest depth false cs

def writeSingle (depth : Nat) (text : List Char) : List Char :=
  '\'' :: writeSingleRest depth false text

/-- The content lines of a literal scalar, after its header; empty lines are not indented. -/
def writeLiteralLines (depth : Nat) (margin : Bool) : List Char → List Char
  | [] => []
  | c :: cs =>
    if isBreak c then c :: writeLiteralLines depth true cs
    else (if margin then indentation depth else []) ++ c :: writeLiteralLines depth false cs

/-- What tells how many of the last line ends belong to the text. -/
def chompMark (text : List Char) : List Char :=
  match text.reverse with
  | [] => ['-']
  | last :: before =>
    if !isBreak last then ['-']
    else if before.head?.all isBreak then ['+']
    else []

/-- A literal scalar `depth` columns in; a first line that begins with a space or is empty needs a
hint of how far in the lines stand. -/
def writeLiteral (depth : Nat) (text : List Char) : List Char :=
  let hint := if text.head?.any fun c => c == ' ' || isBreak c then ['2'] else []
  '|' :: (hint ++ chompMark text ++ '\n' :: writeLiteralLines depth true text)

def writeScalar (isKey : Bool) (depth : Nat) (text : List Char) : List Char :=
  match styleOf isKey text with
  | .plain => text
  | .single => writeSingle depth text
  | .literal | .folded => writeLiteral depth text
  | .double => writeDouble text

def isSimpleKey (key : String) : Bool :=
  key.utf8ByteSize ≤ 128 && !key.toList.any isLineEnd

/-- The end of a written scalar's line, unless the scalar has ended it. -/
def closeLine (written : List Char) : List Char :=
  if endsWith isBreak written then written else written ++ ['\n']

def writeEntry (depth : Nat) (key : String) (value : List Char) : List Char :=
  if isSimpleKey key then
    indentation depth ++ writeScalar true (depth + 2) key.toList ++
      closeLine ([':', ' '] ++ value)
  else
    indentation depth ++ ['?', ' '] ++ closeLine (writeScalar false (depth + 2) key.toList) ++
      indentation depth ++ closeLine ([':', ' '] ++ value)

end CheatCodes.Yaml
