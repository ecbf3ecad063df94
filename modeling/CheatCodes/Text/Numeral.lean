/-!
Decimal numerals within bounds. Digits are read from the left, and the first thing that goes wrong
is reported: a character that is no digit, or a value past the bound.
-/
namespace CheatCodes.Text

inductive NumeralError where
  | empty
  | badDigit
  | tooLarge
  | tooSmall
  deriving DecidableEq, Repr

def NumeralError.message : NumeralError → String
  | .empty => "cannot parse integer from empty string"
  | .badDigit => "invalid digit found in string"
  | .tooLarge => "number too large to fit in target type"
  | .tooSmall => "number too small to fit in target type"

def digit? (c : Char) : Option Nat :=
  if '0' ≤ c ∧ c ≤ '9' then some (c.toNat - '0'.toNat) else none

/-- Appends digits to a value that stays within `bound`. -/
def readDigits (bound : Nat) (past : NumeralError) (value : Nat) :
    List Char → Except NumeralError Nat
  | [] => .ok value
  | c :: cs =>
    match digit? c with
    | none => .error .badDigit
    | some d =>
      let next := value * 10 + d
      if next ≤ bound then readDigits bound past next cs else .error past

/-- A numeral of at most `bound`: a plus sign may stand before the digits. -/
def readNatural (bound : Nat) : List Char → Except NumeralError Nat
  | [] => .error .empty
  | '+' :: c :: cs => readDigits bound .tooLarge 0 (c :: cs)
  | cs => readDigits bound .tooLarge 0 cs

/-- A numeral from `-low` to `high`: either sign may stand before the digits. -/
def readInteger (low high : Nat) : List Char → Except NumeralError Int
  | '-' :: c :: cs => (readDigits low .tooSmall 0 (c :: cs)).map fun n => -(n : Int)
  | cs => (readNatural high cs).map fun n => (n : Int)

def readUInt8 (cs : List Char) : Except NumeralError UInt8 :=
  (readNatural 255 cs).map Nat.toUInt8

def readUInt16 (cs : List Char) : Except NumeralError UInt16 :=
  (readNatural 65535 cs).map Nat.toUInt16

example : readUInt8 "+07".toList = .ok 7 := rfl
example : readUInt8 "300x".toList = .error .tooLarge := rfl
example : readUInt8 "30x0".toList = .error .badDigit := rfl
example : readUInt8 "+".toList = .error .badDigit := rfl

end CheatCodes.Text
