import CheatCodes.Json.Value
/-!
JSON text: on one line, or with every item on a line of its own, two spaces in for each level.
-/
namespace CheatCodes.Json

def twoDigits (code : Nat) : String :=
  String.ofList [Nat.digitChar (code / 16 % 16), Nat.digitChar (code % 16)]

def escape (c : Char) : String :=
  match c with
  | '"' => "\\\""
  | '\\' => "\\\\"
  | '\n' => "\\n"
  | '\x0d' => "\\r"
  | '\t' => "\\t"
  | '\x08' => "\\b"
  | '\x0c' => "\\f"
  | c => if c.toNat < 0x20 then "\\u00" ++ twoDigits c.toNat else String.singleton c

def literal (s : String) : String :=
  "\"" ++ String.join (s.toList.map escape) ++ "\""

def decimalText (mantissa : Int) (places : Nat) : String :=
  toString mantissa ++ "e-" ++ toString places

mutual

def compact : Json → String
  | .null => "null"
  | .bool b => if b then "true" else "false"
  | .int n => toString n
  | .decimal mantissa places => decimalText mantissa places
  | .str s => literal s
  | .arr items => "[" ++ ",".intercalate (compactItems items) ++ "]"
  | .obj fields => "\x7b" ++ ",".intercalate (compactFields fields) ++ "\x7d"

def compactItems : List Json → List String
  | [] => []
  | j :: rest => compact j :: compactItems rest

def compactFields : List (String × Json) → List String
  | [] => []
  | (name, j) :: rest => (literal name ++ ":" ++ compact j) :: compactFields rest

end

def margin (depth : Nat) : String :=
  String.ofList (List.replicate (2 * depth) ' ')

/-- Items one below the other between two brackets; none leave the brackets closed. -/
def block (opening closing : String) (depth : Nat) (items : List String) : String :=
  if items.isEmpty then opening ++ closing
  else
    let lines := items.map fun item => margin (depth + 1) ++ item
    opening ++ "\n" ++ ",\n".intercalate lines ++ "\n" ++ margin depth ++ closing

mutual

/-- The text over several lines, of a value that stands `depth` levels in. -/
def indented (depth : Nat) : Json → String
  | .arr items => block "[" "]" depth (indentedItems (depth + 1) items)
  | .obj fields => block "\x7b" "\x7d" depth (indentedFields (depth + 1) fields)
  | j => compact j

def indentedItems (depth : Nat) : List Json → List String
  | [] => []
  | j :: rest => indented depth j :: indentedItems depth rest

def indentedFields (depth : Nat) : List (String × Json) → List String
  | [] => []
  | (name, j) :: rest => (literal name ++ ": " ++ indented depth j) :: indentedFields depth rest

end

end CheatCodes.Json
