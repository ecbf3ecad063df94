import CheatCodes.Yaml.Token
/-!
The nodes of YAML documents, read from tokens. A missing node is an empty plain scalar. Collections
are blocks, or flows between brackets, in which a pair may stand alone as an item.
-/
namespace CheatCodes.Yaml

/-- A node; `anchor` is the number that aliases refer to it by. -/
inductive Node where
  | scalar (anchor : Option Nat) (tag : Option Octets) (style : Style) (text : List Char)
  | alias (id : Nat)
  | sequence (anchor : Option Nat) (items : List Node)
  | mapping (anchor : Option Nat) (entries : List (Node × Node))
  deriving Repr, Inhabited

namespace Node

def missing : Node :=
  .scalar none none .plain []

mutual

/-- The anchored nodes inside, in the order in which they begin. -/
def anchored : Node → List (Nat × Node)
  | .scalar anchor tag style text =>
    (anchor.map fun id => (id, Node.scalar anchor tag style text)).toList
  | .alias _ => []
  | .sequence anchor items =>
    (anchor.map fun id => (id, Node.sequence anchor items)).toList ++ anchoredItems items
  | .mapping anchor entries =>
    (anchor.map fun id => (id, Node.mapping anchor entries)).toList ++ anchoredEntries entries

def anchoredItems : List Node → List (Nat × Node)
  | [] => []
  | n :: ns => anchored n ++ anchoredItems ns

def anchoredEntries : List (Node × Node) → List (Nat × Node)
  | [] => []
  | (k, v) :: es => anchored k ++ anchored v ++ anchoredEntries es

end

end Node

abbrev TagHandles := List (List Char × Octets)

def standardHandles : TagHandles :=
  [(['!'], octets ['!']), (['!', '!'], octets "tag:yaml.org,2002:".toList)]

def resolveTag (handles : TagHandles) (handle : List Char) (suffix : Octets) : Option Octets :=
  if handle.isEmpty then some suffix else (handles.lookup handle).map (· ++ suffix)

structure Properties where
  anchor : Option Nat
  tag : Option Octets

def readProperties (handles : TagHandles) : List Token → Option (Properties × List Token)
  | .anchor id :: .tag handle suffix :: ts | .tag handle suffix :: .anchor id :: ts =>
    (resolveTag handles handle suffix).map fun tag => (⟨some id, some tag⟩, ts)
  | .anchor id :: ts => some (⟨some id, none⟩, ts)
  | .tag handle suffix :: ts =>
    (resolveTag handles handle suffix).map fun tag => (⟨none, some tag⟩, ts)
  | ts => some (⟨none, none⟩, ts)

/-- The item or key of a block is missing before these. -/
def endsBlockNode : List Token → Bool
  | .key :: _ | .value :: _ | .blockEnd :: _ => true
  | _ => false

abbrev ReadNode (α : Type) := List Token → Option (α × List Token)

namespace Node

mutual

/-- A node that is there; `dashes` tells whether its items may stand without a block of their own. -/
def read (handles : TagHandles) : (fuel : Nat) → (block dashes : Bool) → ReadNode Node
  | 0, _, _, _ => none
  | _ + 1, _, _, .alias id :: ts => some (.alias id, ts)
  | fuel + 1, block, dashes, ts => do
    let (p, ts) ← readProperties handles ts
    match ts with
    | .entry :: _ =>
      if dashes then do
        let (items, ts) ← readDashes handles fuel ts
        return (.sequence p.anchor items, ts)
      else empty p ts
    | .scalar style text :: ts =>
      return (.scalar p.anchor p.tag style text, ts)
    | .flowSequenceStart :: ts => do
      let (items, ts) ← readFlowItems handles fuel true ts
      return (.sequence p.anchor items, ts)
    | .flowMappingStart :: ts => do
      let (entries, ts) ← readFlowEntries handles fuel true ts
      return (.mapping p.anchor entries, ts)
    | .sequenceStart :: rest =>
      if block then do
        let (items, ts) ← readItems handles fuel rest
        return (.sequence p.anchor items, ts)
      else empty p ts
    | .mappingStart :: rest =>
      if block then do
        let (entries, ts) ← readEntries handles fuel rest
        return (.mapping p.anchor entries, ts)
      else empty p ts
    | ts => empty p ts
where
  /-- Properties may stand alone. -/
  empty (p : Properties) (ts : List Token) : Option (Node × List Token) :=
    if p.anchor.isSome || p.tag.isSome then some (.scalar p.anchor p.tag .plain [], ts) else none

def readItems (handles : TagHandles) : Nat → ReadNode (List Node)
  | 0, _ => none
  | _ + 1, .blockEnd :: ts => some ([], ts)
  | fuel + 1, .entry :: ts => do
    let (item, ts) ←
      match ts with
      | .entry :: _ | .blockEnd :: _ => some (missing, ts)
      | _ => read handles fuel true false ts
    let (items, ts) ← readItems handles fuel ts
    return (item :: items, ts)
  | _ + 1, _ => none

/-- Items that stand as far in as the key before them. -/
def readDashes (handles : TagHandles) : Nat → ReadNode (List Node)
  | 0, _ => none
  | fuel + 1, .entry :: ts => do
    let (item, ts) ←
      match ts with
      | .entry :: _ => some (missing, ts)
      | _ => if endsBlockNode ts then some (missing, ts) else read handles fuel true false ts
    let (items, ts) ← readDashes handles fuel ts
    return (item :: items, ts)
  | _ + 1, ts => some ([], ts)

def readEntries (handles : TagHandles) : Nat → ReadNode (List (Node × Node))
  | 0, _ => none
  | _ + 1, .blockEnd :: ts => some ([], ts)
  | fuel + 1, .key :: ts => do
    let (k, ts) ←
      if endsBlockNode ts then some (missing, ts) else read handles fuel true true ts
    let (v, ts) ←
      match ts with
      | .value :: ts =>
        if endsBlockNode ts then some (missing, ts) else read handles fuel true true ts
      | _ => some (missing, ts)
    let (entries, ts) ← readEntries handles fuel ts
    return ((k, v) :: entries, ts)
  | _ + 1, _ => none

/-- The items of a flow sequence; a key begins a mapping of one pair. -/
def readFlowItems (handles : TagHandles) : Nat → (first : Bool) → ReadNode (List Node)
  | 0, _, _ => none
  | _ + 1, _, .flowSequenceEnd :: ts => some ([], ts)
  | fuel + 1, first, ts => do
    let ts ←
      if first then some ts
      else
        match ts with
        | .flowEntry :: ts => some ts
        | _ => none
    match ts with
    | .flowSequenceEnd :: ts => return ([], ts)
    | .key :: ts =>
      let (entry, ts) ← readFlowPair handles fuel ts
      let (items, ts) ← readFlowItems handles fuel false ts
      return (.mapping none [entry] :: items, ts)
    | _ =>
      let (item, ts) ← read handles fuel false false ts
      let (items, ts) ← readFlowItems handles fuel false ts
      return (item :: items, ts)

/-- A pair that stands alone in a flow sequence. The token after a missing key is passed over. -/
def readFlowPair (handles : TagHandles) : Nat → ReadNode (Node × Node)
  | 0, _ => none
  | fuel + 1, ts => do
    let (k, ts) ←
      match ts with
      | .value :: ts | .flowEntry :: ts | .flowSequenceEnd :: ts => some (missing, ts)
      | _ => read handles fuel false false ts
    match ts with
    | .value :: ts =>
      match ts with
      | .flowEntry :: _ | .flowSequenceEnd :: _ => return ((k, missing), ts)
      | _ =>
        let (v, ts) ← read handles fuel false false ts
        return ((k, v), ts)
    | _ => return ((k, missing), ts)

/-- The entries of a flow mapping; a node without a key's mark has no value. -/
def readFlowEntries (handles : TagHandles) : Nat → (first : Bool) → ReadNode (List (Node × Node))
  | 0, _, _ => none
  | _ + 1, _, .flowMappingEnd :: ts => some ([], ts)
  | fuel + 1, first, ts => do
    let ts ←
      if first then some ts
      else
        match ts with
        | .flowEntry :: ts => some ts
        | _ => none
    match ts with
    | .flowMappingEnd :: ts => return ([], ts)
    | .key :: ts =>
      let (k, ts) ←
        match ts with
        | .value :: _ | .flowEntry :: _ | .flowMappingEnd :: _ => some (missing, ts)
        | _ => read handles fuel false false ts
      let (v, ts) ←
        match ts with
        | .value :: ts =>
          match ts with
          | .flowEntry :: _ | .flowMappingEnd :: _ => some (missing, ts)
          | _ => read handles fuel false false ts
        | _ => some (missing, ts)
      let (entries, ts) ← readFlowEntries handles fuel false ts
      return ((k, v) :: entries, ts)
    | _ =>
      let (k, ts) ← read handles fuel false false ts
      let (entries, ts) ← readFlowEntries handles fuel false ts
      return ((k, missing) :: entries, ts)

end

end Node

end CheatCodes.Yaml
