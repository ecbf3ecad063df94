/-!
JSON values, and how records and variants are laid out in them. A record is an object of its fields
or an array of them in order; a variant is its name, alone or as the one key of an object. The
fields of a variant are always named.
-/
namespace CheatCodes

inductive Json where
  | null
  | bool (b : Bool)
  | int (n : Int)
  /-- A number written with a fraction or an exponent: `mantissa` with `places` decimal places. -/
  | decimal (mantissa : Int) (places : Nat)
  | str (s : String)
  | arr (items : List Json)
  | obj (fields : List (String × Json))
  deriving Inhabited

namespace Json

/-- A record whose fields are all given. -/
def isRecord (size : Nat) : Json → Bool
  | .obj _ => true
  | .arr items => items.length == size
  | _ => false

/-- A record whose last fields may be missing from an array. -/
def isPartialRecord (size : Nat) : Json → Bool
  | .obj _ => true
  | .arr items => items.length ≤ size
  | _ => false

def hasOnly (names : List String) : Json → Bool
  | .obj fields => fields.all fun f => names.contains f.1
  | _ => true

/-- A record's field, by its place or its name. -/
def field? (j : Json) (place : Nat) (name : String) : Option Json :=
  match j with
  | .obj fields => fields.lookup name
  | .arr items => items[place]?
  | _ => none

def variant? : Json → Option (String × Option Json)
  | .str name => some (name, none)
  | .obj [(name, content)] => some (name, some content)
  | _ => none

def isBare : Option Json → Bool
  | none | some .null => true
  | _ => false

def body? : Option Json → Option Json
  | some (.obj fields) => some (.obj fields)
  | _ => none

end Json

end CheatCodes
