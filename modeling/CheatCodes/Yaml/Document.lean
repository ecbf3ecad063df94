import CheatCodes.Yaml.Node
import CheatCodes.Named
/-!
Documents, and values of known shapes in their nodes. A stream holds one document at most; where a
record or a map is wanted, an empty node counts as one without fields.
-/
namespace CheatCodes.Yaml

/-- Handles of tag directives, each once, and one version at most. -/
def readDirectives (versioned : Bool) (handles : TagHandles) :
    List Token → Option (TagHandles × List Token)
  | .directive (.version major minor) :: ts =>
    if versioned || major != 1 || !(minor == 1 || minor == 2) then none
    else readDirectives true handles ts
  | .directive (.tag handle lead) :: ts =>
    if (handles.lookup handle).isSome then none
    else readDirectives versioned ((handle, lead) :: handles) ts
  | ts => some (handles, ts)

/-- A document without content ends here. -/
def endsDocument : List Token → Bool
  | [] | .directive _ :: _ | .documentStart :: _ | .documentEnd :: _ => true
  | _ => false

/-- The root of the first document; a document without a mark must have content. -/
def readRoot (ts : List Token) : Option (Node × List Token) :=
  let fuel := 2 * ts.length + 2
  match ts with
  | .directive _ :: _ | .documentStart :: _ => do
    let (handles, ts) ← readDirectives false [] ts
    match ts with
    | .documentStart :: ts =>
      if endsDocument ts then some (.missing, ts)
      else Node.read (handles ++ standardHandles) fuel true false ts
    | _ => none
  | _ => Node.read standardHandles fuel true false ts

structure Document where
  /-- Nothing at all when the stream is empty. -/
  root : Option Node
  deriving Repr, Inhabited

namespace Document

def ofTokens? : List Token → Option Document
  | [] => some ⟨none⟩
  | ts => do
    let (root, rest) ← readRoot ts
    if rest.all (· == .documentEnd) then some ⟨some root⟩ else none

def ofChars? (cs : List Char) : Option Document := do
  ofTokens? (← tokens? cs)

/-- What an alias refers to: of the nodes with its number, the one that begins last. -/
def resolve (d : Document) : Node → Node
  | .alias id => (((d.root.map Node.anchored).getD []).reverse.lookup id).getD .missing
  | n => n

def text? (d : Document) (n : Node) : Option String :=
  match d.resolve n with
  | .scalar _ _ _ text => some (String.ofList text)
  | _ => none

def entries? (d : Document) (n : Node) : Option (List (String × Node)) :=
  match d.resolve n with
  | .mapping _ entries => entries.mapM fun e => (d.text? e.1).map fun key => (key, e.2)
  | .scalar _ _ .plain [] => some []
  | _ => none

/-- The entries of a record: each known field at most once, others are passed over. -/
def fields? (d : Document) (known : List String) (n : Node) : Option (List (String × Node)) := do
  let entries ← d.entries? n
  if known.all fun name => entries.countP (·.1 == name) ≤ 1 then
    return entries.filter fun e => known.contains e.1
  else none

end Document

/-! Scalars of known kinds. -/

def readBase (base : Nat) (digits : List Char) : Option Nat :=
  if digits.isEmpty then none
  else digits.foldlM (fun value c => do
    let d ← hexDigit? c
    if d < base then some (value * base + d) else none) 0

/-- Digits after a leading zero, which make a text and no number. -/
def hasIdleZero (text : List Char) : Bool :=
  match text with
  | '+' :: '0' :: d :: rest | '-' :: '0' :: d :: rest | '0' :: d :: rest =>
    (d :: rest).all Char.isDigit
  | _ => false

/-- A number in decimal, hexadecimal, octal or binary notation, perhaps after a plus sign. -/
def readUnsigned (text : List Char) : Option Nat :=
  let digits := if text.head? = some '+' then text.tail else text
  match digits with
  | '0' :: 'x' :: rest => readBase 16 rest
  | '0' :: 'o' :: rest => readBase 8 rest
  | '0' :: 'b' :: rest => readBase 2 rest
  | _ => if hasIdleZero text then none else readBase 10 digits

def isNullWord (text : List Char) : Bool :=
  ["null", "Null", "NULL", "~"].any (·.toList == text)

namespace Document

/-- A plain number of at most `bound`, or a literal one that is tagged as a number. -/
def unsigned? (d : Document) (bound : Nat) (n : Node) : Option Nat :=
  match d.resolve n with
  | .scalar _ tag style text =>
    if style = .plain || (style = .literal && tag = some (octets "tag:yaml.org,2002:int".toList)) then
      (readUnsigned text).filter (· ≤ bound)
    else none
  | _ => none

def localName? : Option Octets → Option String
  | some (0x21 :: name) => String.fromUTF8? ⟨name.toArray⟩
  | _ => none

/-- A kind by its name, or by a local tag on an empty scalar. -/
def named? {α : Type} [Named α] (d : Document) (n : Node) : Option α :=
  match d.resolve n with
  | .scalar _ tag style text =>
    match localName? tag with
    | some name =>
      if style = .plain && (text.isEmpty || isNullWord text) then Named.ofName? name else none
    | none => Named.ofName? (String.ofList text)
  | _ => none

end Document

end CheatCodes.Yaml
