import RowGate.Decimal.Layout
import RowGate.Json.Basic

/-! # Writing JSON

The compact form, and a form with two blanks of indentation per level.
-/

namespace RowGate.Json

def Number.text : Number → String
  | int n => toString n
  | float x => Decimal.Layout.json.text x

def hexText (n : Nat) : List Char := Nat.toDigits 16 n

/-- Quotes, backslashes and control characters are escaped, nothing else. -/
def escapeChar : Char → List Char
  | '"' => ['\\', '"']
  | '\\' => ['\\', '\\']
  | '\x08' => ['\\', 'b']
  | '\x0c' => ['\\', 'f']
  | '\n' => ['\\', 'n']
  | '\r' => ['\\', 'r']
  | '\t' => ['\\', 't']
  | c =>
    if c.toNat < 0x10 then ['\\', 'u', '0', '0', '0'] ++ hexText c.toNat
    else if c.toNat < 0x20 then ['\\', 'u', '0', '0'] ++ hexText c.toNat
    else [c]

def quoted (s : String) : String :=
  "\"" ++ String.ofList (s.toList.flatMap escapeChar) ++ "\""

mutual

/-- The text without blanks. -/
def compact : Json → String
  | null => "null"
  | bool b => if b then "true" else "false"
  | number n => n.text
  | string s => quoted s
  | array items => "[" ++ ",".intercalate (compactItems items) ++ "]"
  | object members => "\x7b" ++ ",".intercalate (compactMembers members) ++ "\x7d"

def compactItems : List Json → List String
  | [] => []
  | v :: vs => compact v :: compactItems vs

def compactMembers : List (String × Json) → List String
  | [] => []
  | (k, v) :: ms => (quoted k ++ ":" ++ compact v) :: compactMembers ms

end

def indent (n : Nat) : String := String.ofList (List.replicate (2 * n) ' ')

/-- A bracketed block with an entry per line; an empty one stays on its line. -/
def block (level : Nat) (left right : String) : List String → String
  | [] => left ++ right
  | entries =>
    left ++ "\n" ++ ",\n".intercalate (entries.map (indent (level + 1) ++ ·)) ++ "\n" ++
      indent level ++ right

mutual

/-- The indented text, at a level of nesting. -/
def prettyAt (level : Nat) : Json → String
  | array items => block level "[" "]" (prettyItems (level + 1) items)
  | object members => block level "\x7b" "\x7d" (prettyMembers (level + 1) members)
  | null => "null"
  | bool b => if b then "true" else "false"
  | number n => n.text
  | string s => quoted s

def prettyItems (level : Nat) : List Json → List String
  | [] => []
  | v :: vs => prettyAt level v :: prettyItems level vs

def prettyMembers (level : Nat) : List (String × Json) → List String
  | [] => []
  | (k, v) :: ms => (quoted k ++ ": " ++ prettyAt level v) :: prettyMembers level ms

end

def pretty (v : Json) : String := prettyAt 0 v

end RowGate.Json
