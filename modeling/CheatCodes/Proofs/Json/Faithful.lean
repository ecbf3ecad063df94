import CheatCodes.Json.Codec
/-!
Codecs that read back what they write. No value is written as `null`, so that a missing value can
be told from one that is there.
-/
namespace CheatCodes.Json

class Faithful (α : Type) [Codec α] : Prop where
  decode_encode (a : α) : decode? (encode a) = some a
  encode_ne_null (a : α) : encode a ≠ .null

export Faithful (decode_encode encode_ne_null)

attribute [simp] decode_encode

theorem natural?_int {bound n : Nat} (within : n ≤ bound) : natural? bound (.int n) = some n := by
  have : (n : Int) ≤ bound := Int.ofNat_le.2 within
  simp [natural?, this]

instance : Faithful UInt8 where
  decode_encode n := by
    have within : n.toNat ≤ 255 := Nat.le_of_lt_succ n.toNat_lt
    simp [decode?, encode, natural?_int within]
  encode_ne_null _ := nofun

instance : Faithful UInt16 where
  decode_encode n := by
    have within : n.toNat ≤ 65535 := Nat.le_of_lt_succ n.toNat_lt
    simp [decode?, encode, natural?_int within]
  encode_ne_null _ := nofun

instance : Faithful UInt32 where
  decode_encode n := by
    have within : n.toNat ≤ 4294967295 := Nat.le_of_lt_succ n.toNat_lt
    simp [decode?, encode, natural?_int within]
  encode_ne_null _ := nofun

instance : Faithful UInt64 where
  decode_encode n := by
    have within : n.toNat ≤ 18446744073709551615 := Nat.le_of_lt_succ n.toNat_lt
    simp [decode?, encode, natural?_int within]
  encode_ne_null _ := nofun

instance : Faithful Bool where
  decode_encode _ := rfl
  encode_ne_null _ := nofun

instance : Faithful String where
  decode_encode _ := rfl
  encode_ne_null _ := nofun

instance : Faithful Char where
  decode_encode c := by simp [decode?, encode]
  encode_ne_null _ := nofun

section
variable {α : Type} [Codec α] [Faithful α]

@[simp] theorem decode_encode_option (a : Option α) : decode? (encode a) = some a := by
  cases a with
  | none => rfl
  | some a =>
    have there : encode (some a) = encode a := rfl
    have written := encode_ne_null a
    rw [there]
    cases json : encode a with
    | null => exact absurd json written
    | _ => simp [decode?, ← json]

theorem mapM_decode_encode (as : List α) : (as.map encode).mapM decode? = some as := by
  induction as with
  | nil => rfl
  | cons a as ih => simp [ih]

instance : Faithful (List α) where
  decode_encode := mapM_decode_encode
  encode_ne_null _ := nofun

instance : Faithful (Array α) where
  decode_encode as := by
    simp only [decode?, encode, mapM_decode_encode, Option.map_some, Array.toArray_toList]
  encode_ne_null _ := nofun

end

instance (priority := low) {α : Type} [Named α] : Faithful α where
  decode_encode a := by simp [decode?, encode, variant?, isBare]
  encode_ne_null _ := nofun

/-! Fields of a record that is written as an object. -/

@[simp] theorem isRecord_obj (size : Nat) (fields : List (String × Json)) :
    (obj fields).isRecord size = true := rfl

@[simp] theorem isPartialRecord_obj (size : Nat) (fields : List (String × Json)) :
    (obj fields).isPartialRecord size = true := rfl

@[simp] theorem field?_obj (fields : List (String × Json)) (place : Nat) (name : String) :
    (obj fields).field? place name = fields.lookup name := rfl

@[simp] theorem required?_obj {α : Type} [Codec α] (fields : List (String × Json)) (place : Nat)
    (name : String) :
    (required? (obj fields) place name : Option α) = (fields.lookup name).bind decode? := rfl

end CheatCodes.Json
