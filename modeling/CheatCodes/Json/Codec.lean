import CheatCodes.Json.Value
import CheatCodes.Named
/-!
Types with a JSON form. Numbers must be integers in range and a character is a text of one;
`null` stands for a missing value and for nothing else.
-/
namespace CheatCodes.Json

class Codec (α : Type) where
  encode : α → Json
  decode? : Json → Option α

export Codec (encode decode?)

def natural? (bound : Nat) : Json → Option Nat
  | .int n => if 0 ≤ n ∧ n ≤ bound then some n.toNat else none
  | _ => none

instance : Codec UInt8 where
  encode n := .int n.toNat
  decode? j := (natural? 255 j).map Nat.toUInt8

instance : Codec UInt16 where
  encode n := .int n.toNat
  decode? j := (natural? 65535 j).map Nat.toUInt16

instance : Codec UInt32 where
  encode n := .int n.toNat
  decode? j := (natural? 4294967295 j).map Nat.toUInt32

instance : Codec UInt64 where
  encode n := .int n.toNat
  decode? j := (natural? 18446744073709551615 j).map Nat.toUInt64

instance : Codec Bool where
  encode := .bool
  decode?
    | .bool b => some b
    | _ => none

instance : Codec String where
  encode := .str
  decode?
    | .str s => some s
    | _ => none

instance : Codec Char where
  encode c := .str (String.singleton c)
  decode?
    | .str s =>
      match s.toList with
      | [c] => some c
      | _ => none
    | _ => none

instance {α : Type} [Codec α] : Codec (Option α) where
  encode
    | some a => encode a
    | none => .null
  decode?
    | .null => some none
    | j => (decode? j).map some

instance {α : Type} [Codec α] : Codec (List α) where
  encode as := .arr (as.map encode)
  decode?
    | .arr items => items.mapM decode?
    | _ => none

instance {α : Type} [Codec α] : Codec (Array α) where
  encode as := .arr (as.toList.map encode)
  decode?
    | .arr items => (items.mapM decode?).map List.toArray
    | _ => none

/-- A kind without data is its name. -/
instance (priority := low) {α : Type} [Named α] : Codec α where
  encode a := .str (Named.name a)
  decode? j :=
    match j.variant? with
    | some (name, content) => if isBare content then Named.ofName? name else none
    | none => none

/-! Fields of records. -/

variable {α : Type} [Codec α]

def required? (j : Json) (place : Nat) (name : String) : Option α :=
  (j.field? place name).bind decode?

def optional? (j : Json) (place : Nat) (name : String) : Option (Option α) :=
  match j.field? place name with
  | none => some none
  | some content => decode? content

def defaulted? (fallback : α) (j : Json) (place : Nat) (name : String) : Option α :=
  match j.field? place name with
  | none => some fallback
  | some content => decode? content

end CheatCodes.Json
