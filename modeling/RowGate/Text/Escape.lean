import RowGate.Text.Printable

/-! # Escaped text

Text as a message shows it: unprintable characters by their code point, quotes and backslashes
behind a backslash.
-/

namespace RowGate.Text

/-- The code point in lower-case hexadecimal, in braces behind `\u`. -/
def codePointEscape (c : Char) : List Char :=
  '\\' :: 'u' :: '\x7b' :: Nat.toDigits 16 c.toNat ++ ['\x7d']

/-- What a message may leave as it stands. -/
structure EscapeRule where
  singleQuotes : Bool
  extenders : Bool

def escapeChar (rule : EscapeRule) (c : Char) : List Char :=
  match c with
  | '\x00' => ['\\', '0']
  | '\t' => ['\\', 't']
  | '\r' => ['\\', 'r']
  | '\n' => ['\\', 'n']
  | '\\' => ['\\', '\\']
  | '"' => ['\\', '"']
  | '\'' => if rule.singleQuotes then ['\\', '\''] else ['\'']
  | c =>
    if (rule.extenders && isExtender c) || !isPrintable c then codePointEscape c else [c]

/-- Every quote escaped. Only a leading extender is: a later one joins the character before it. -/
def escape : List Char → List Char
  | [] => []
  | c :: s => escapeChar ⟨true, true⟩ c ++ s.flatMap (escapeChar ⟨true, false⟩)

/-- In double quotes, with single quotes as they are. -/
def quote (s : List Char) : List Char :=
  '"' :: s.flatMap (escapeChar ⟨false, true⟩) ++ ['"']

/-- A list of quoted texts in square brackets. -/
def quoteList (ss : List String) : String :=
  "[" ++ ", ".intercalate (ss.map fun s => String.ofList (quote s.toList)) ++ "]"

end RowGate.Text
