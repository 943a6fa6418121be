/-! # TOML strings -/

namespace RowGate.Toml

/-- Control characters other than the tab. -/
def isForbidden (c : Char) : Bool := (c.toNat < 0x20 && c != '\t') || c.toNat == 0x7F

def hexValue? (c : Char) : Option Nat :=
  if c.isDigit then some (c.toNat - 48)
  else if 'a' ≤ c ∧ c ≤ 'f' then some (c.toNat - 87)
  else if 'A' ≤ c ∧ c ≤ 'F' then some (c.toNat - 55)
  else none

/-- The character of a code point in exactly `n` hexadecimal digits. -/
def codePoint? (n : Nat) (s : List Char) : Option (Char × List Char) := do
  let ds := s.take n
  if ds.length ≠ n then none
  let ds ← ds.mapM hexValue?
  let value := ds.foldl (fun m d => 16 * m + d) 0
  if value < 0xD800 ∨ (0xDFFF < value ∧ value < 0x110000) then
    return (Char.ofNat value, s.drop n)
  else none

/-- The character behind a backslash. -/
def escape? : List Char → Option (Char × List Char)
  | 'b' :: s => some ('\x08', s)
  | 't' :: s => some ('\t', s)
  | 'n' :: s => some ('\n', s)
  | 'f' :: s => some ('\x0c', s)
  | 'r' :: s => some ('\r', s)
  | 'e' :: s => some ('\x1b', s)
  | '"' :: s => some ('"', s)
  | '\\' :: s => some ('\\', s)
  | 'x' :: s => codePoint? 2 s
  | 'u' :: s => codePoint? 4 s
  | 'U' :: s => codePoint? 8 s
  | _ => none

/-- A line end, and what follows it. -/
def newline? : List Char → Option (List Char)
  | '\n' :: s => some s
  | '\r' :: '\n' :: s => some s
  | _ => none

def isTabOrSpace (c : Char) : Bool := c == ' ' || c == '\t'

def skipBlanks (s : List Char) : List Char := s.dropWhile isTabOrSpace

/-- The rest of a single line in double quotes. The fuel is at least the length of the input, as in
the readers below. -/
def readBasic? : Nat → List Char → Option (List Char × List Char)
  | 0, _ => none
  | fuel + 1, s => match s with
    | [] => none
    | '"' :: s => some ([], s)
    | '\\' :: s => do
      let (c, s) ← escape? s
      let (t, s) ← readBasic? fuel s
      return (c :: t, s)
    | c :: s =>
      if isForbidden c then none else (readBasic? fuel s).map fun p => (c :: p.1, p.2)

/-- The rest of a single line in single quotes. -/
def readLiteral? : List Char → Option (List Char × List Char)
  | [] => none
  | '\'' :: s => some ([], s)
  | c :: s => if isForbidden c then none else (readLiteral? s).map fun p => (c :: p.1, p.2)

/-- Three quotes or more end a text of several lines; up to two of them belong to it. -/
def closing? (quote : Char) (s : List Char) : Option (List Char × List Char) :=
  let run := (s.takeWhile (· == quote)).length
  if run < 3 then none
  else
    let kept := min (run - 3) 2
    some (List.replicate kept quote, s.drop (kept + 3))

/-- Blanks and line ends, as they follow a backslash at the end of a line. -/
def skipLineEnds (s : List Char) : List Char :=
  s.dropWhile fun c => isTabOrSpace c || c == '\n' || c == '\r'

/-- The rest of several lines in quotes; a backslash escapes if `escapes`. Line ends are kept as
they are written. -/
def readLines? (quote : Char) (escapes : Bool) : Nat → List Char → Option (List Char × List Char)
  | 0, _ => none
  | fuel + 1, s => match closing? quote s with
    | some p => some p
    | none => match s with
      | [] => none
      | c :: s =>
        if c = '\\' ∧ escapes then
          if (newline? (skipBlanks s)).isSome then
            readLines? quote escapes fuel (skipLineEnds s)
          else do
            let (c, s) ← escape? s
            let (t, s) ← readLines? quote escapes fuel s
            return (c :: t, s)
        else if isForbidden c && (newline? (c :: s)).isNone then none
        else (readLines? quote escapes fuel s).map fun p => (c :: p.1, p.2)

/-- A line end right behind the opening quotes is no part of the text. -/
def skipFirstNewline (s : List Char) : List Char := (newline? s).getD s

/-- A string of any of the four kinds, and what follows it. -/
def readString? (s : List Char) : Option (List Char × List Char) :=
  match s with
  | '"' :: '"' :: '"' :: s => readLines? '"' true (s.length + 1) (skipFirstNewline s)
  | '\'' :: '\'' :: '\'' :: s => readLines? '\'' false (s.length + 1) (skipFirstNewline s)
  | '"' :: s => readBasic? (s.length + 1) s
  | '\'' :: s => readLiteral? s
  | _ => none

end RowGate.Toml
