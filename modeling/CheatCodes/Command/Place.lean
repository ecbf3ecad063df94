import CheatCodes.Terrain
import CheatCodes.Text.Blank
import CheatCodes.Text.Numeral
import CheatCodes.Text.Quoted
/-!
Points and deposits as they are typed: fields apart by commas, with blanks around them. The first
field that is wrong is reported.
-/
namespace CheatCodes

inductive PlaceError where
  | noPoint (text : List Char)
  | badX (text : List Char) (cause : Text.NumeralError)
  | badY (text : List Char) (cause : Text.NumeralError)
  | noDeposit (text : List Char)
  | unknownResource (name : List Char)
  | badAmount (text : List Char) (cause : Text.NumeralError)
  deriving DecidableEq, Repr

def PlaceError.message (e : PlaceError) : String :=
  let shown cs := String.ofList (Text.quotedChars cs)
  match e with
  | .noPoint text => "expected x,y, got " ++ shown text
  | .badX text cause => "bad x in " ++ shown text ++ ": " ++ cause.message
  | .badY text cause => "bad y in " ++ shown text ++ ": " ++ cause.message
  | .noDeposit text => "expected x,y,kind,amount, got " ++ shown text
  | .unknownResource name => "unknown resource " ++ shown name
  | .badAmount text cause => "bad amount in " ++ shown text ++ ": " ++ cause.message

def splitComma (text : List Char) : Option (List Char × List Char) :=
  match text.dropWhile (· != ',') with
  | _ :: after => some (text.takeWhile (· != ','), after)
  | [] => none

/-- A point such as `3,4`. -/
def Point.read (text : List Char) : Except PlaceError Point :=
  match splitComma text with
  | none => .error (.noPoint text)
  | some (x, y) => do
    let x ← (Text.readUInt16 (Text.trim x)).mapError (.badX text)
    let y ← (Text.readUInt16 (Text.trim y)).mapError (.badY text)
    return ⟨x, y⟩

/-- The resource of a name in lower case; nothing has none. -/
def ResourceKind.ofLower? (name : List Char) : Option ResourceKind :=
  match String.ofList name with
  | "iron" => some .iron
  | "gold" => some .gold
  | "coal" => some .coal
  | "granite" => some .granite
  | "water" => some .water
  | "fish" => some .fish
  | _ => none

structure Deposit where
  pt : Point
  resource : Resource
  deriving DecidableEq, Repr

/-- A deposit such as `12,30,gold,5`. -/
def Deposit.read (text : List Char) : Except PlaceError Deposit :=
  match splitComma text with
  | none => .error (.noDeposit text)
  | some (x, others) =>
    match splitComma others with
    | none => .error (.noDeposit text)
    | some (y, others) => do
      let pt ← Point.read (x ++ ',' :: y)
      match splitComma others with
      | none => .error (.noDeposit text)
      | some (kind, amount) =>
        let name := (Text.trim kind).map Char.toLower
        match ResourceKind.ofLower? name with
        | none => .error (.unknownResource name)
        | some kind =>
          let amount ← (Text.readUInt8 (Text.trim amount)).mapError (.badAmount text)
          return ⟨pt, ⟨kind, amount⟩⟩

end CheatCodes
