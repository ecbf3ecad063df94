import CheatCodes.Text.Printable
/-!
The quoted form of a text in messages: between double quotes, with short escapes for the usual
control characters and the code of every other character that has no shape of its own.
-/
namespace CheatCodes.Text

def hexCode (code : Nat) : List Char :=
  Nat.toDigits 16 code

def escape (c : Char) : List Char :=
  match c with
  | '"' => ['\\', '"']
  | '\\' => ['\\', '\\']
  | '\n' => ['\\', 'n']
  | '\x0d' => ['\\', 'r']
  | '\t' => ['\\', 't']
  | '\x00' => ['\\', '0']
  | c => if isPrintable c then [c] else ['\\', 'u', '\x7b'] ++ hexCode c.toNat ++ ['\x7d']

def quotedChars (cs : List Char) : List Char :=
  '"' :: (cs.flatMap escape ++ ['"'])

example : quotedChars "say \"hi\"".toList = "\"say \\\"hi\\\"\"".toList := by decide

end CheatCodes.Text
