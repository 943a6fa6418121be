import RowGate.Toml.Scalar
import RowGate.Toml.Table
import RowGate.Toml.Text

/-! # Reading TOML

Version 1.1 of the format. A document is read into a JSON document.
-/

namespace RowGate.Toml

def isBareKeyChar (c : Char) : Bool := c.isAlphanum || c == '_' || c == '-'

/-- One part of a key. -/
def readKeyPart? (s : List Char) : Option (String × List Char) :=
  match s with
  | '"' :: s => (readBasic? (s.length + 1) s).map fun p => (String.ofList p.1, p.2)
  | '\'' :: s => (readLiteral? s).map fun p => (String.ofList p.1, p.2)
  | s => match s.span isBareKeyChar with
    | ([], _) => none
    | (k, s) => some (String.ofList k, s)

/-- A key has at most so many parts. -/
def maxKeyParts : Nat := 80

/-- Arrays and inline tables stand in each other to this depth. -/
def maxDepth : Nat := 80

/-- A key of at most so many parts: points between them, and blanks around. The last part stands
apart. -/
def readParts? : Nat → List Char → Option (List String × String × List Char)
  | 0, _ => none
  | room + 1, s => do
    let (k, s) ← readKeyPart? (skipBlanks s)
    match skipBlanks s with
    | '.' :: s =>
      let (path, last, s) ← readParts? room s
      return (k :: path, last, s)
    | s => return ([], k, s)

def readKey? (s : List Char) : Option (List String × String × List Char) :=
  readParts? maxKeyParts s

/-- A comment up to the end of its line. -/
def skipComment? : List Char → Option (List Char)
  | '#' :: s =>
    let (text, s) := s.span fun c => c != '\n' && c != '\r'
    if text.any isForbidden then none else some s
  | s => some s

/-- The lines of a layout, of which there are at most `fuel`. -/
def skipLines? : Nat → List Char → Option (List Char)
  | 0, s => some s
  | fuel + 1, s => do
    let s ← skipComment? (skipBlanks s)
    match newline? s with
    | some s => skipLines? fuel s
    | none => return s

/-- Blanks, comments and line ends, as they may stand in an array or an inline table. -/
def skipLayout? (s : List Char) : Option (List Char) := skipLines? (s.length + 1) s

/-- The sign between a key and its value in an inline table. -/
def skipEquals? (s : List Char) : Option (List Char) := do
  skipLayout? (← skip? '=' (← skipLayout? s))

mutual

/-- A value, and what follows it. The fuel bounds the steps, which the length of the input does, and
the room is the depth that is left. -/
def readValue? : Nat → Nat → List Char → Option (Json × List Char)
  | 0, _, _ => none
  | fuel + 1, room, s => match s, room with
    | '[' :: s, room + 1 => (readItems? fuel room s).map fun p => (.array p.1, p.2)
    | '{' :: s, room + 1 =>
      (readInline? fuel room [] s).map fun p => (.ofMembers (members p.1), p.2)
    | c :: s, _ =>
      if c = '"' ∨ c = '\'' then
        (readString? (c :: s)).map fun p => (.string (String.ofList p.1), p.2)
      else readScalar? (c :: s)
    | [], _ => none

/-- The items of an array up to its closing bracket; a comma may follow the last. -/
def readItems? : Nat → Nat → List Char → Option (List Json × List Char)
  | 0, _, _ => none
  | fuel + 1, room, s => match skipLayout? s with
    | none => none
    | some (']' :: s) => some ([], s)
    | some s => match readValue? fuel room s with
      | none => none
      | some (v, s) => match skipLayout? s with
        | some (',' :: s) => (readItems? fuel room s).map fun p => (v :: p.1, p.2)
        | some (']' :: s) => some ([v], s)
        | _ => none

/-- The entries of an inline table up to its closing brace; a comma may follow the last. -/
def readInline? : Nat → Nat → Entries → List Char → Option (Entries × List Char)
  | 0, _, _, _ => none
  | fuel + 1, room, es, s => match skipLayout? s with
    | none => none
    | some ('}' :: s) => some (es, s)
    | some s => match readKey? s with
      | none => none
      | some (path, k, s) => match skipEquals? s with
        | none => none
        | some s => match readValue? fuel room s with
          | none => none
          | some (v, s) => match addValue k v path es, skipLayout? s with
            | some es, some (',' :: s) => readInline? fuel room es s
            | some es, some ('}' :: s) => some (es, s)
            | _, _ => none

end

/-- What has been read: the entries at the root, and the path of the current table. -/
structure Document where
  root : Entries := []
  path : List String := []

/-- The header of a table or, in double brackets, of an element of an array of tables. -/
def readHeader? (d : Document) (s : List Char) : Option (Document × List Char) :=
  match s with
  | '[' :: s => match readKey? s with
    | some (path, k, ']' :: ']' :: s) => do
      let root ← descend (openElement k) path d.root
      return (⟨root, path ++ [k]⟩, s)
    | _ => none
  | s => match readKey? s with
    | some (path, k, ']' :: s) => do
      let root ← descend (openTable k) path d.root
      return (⟨root, path ++ [k]⟩, s)
    | _ => none

/-- A key and its value. -/
def readEntry? (d : Document) (s : List Char) : Option (Document × List Char) :=
  match readKey? s with
  | some (path, k, '=' :: s) => do
    let (v, s) ← readValue? (2 * s.length + 2) maxDepth (skipBlanks s)
    let root ← descend (addValue k v path) d.path d.root
    return ({ d with root := root }, s)
  | _ => none

/-- The lines of a document. -/
def readLinesOf? : Nat → Document → List Char → Option Document
  | 0, _, _ => none
  | fuel + 1, d, s => match skipBlanks s with
    | [] => some d
    | c :: s => do
      let (d, s) ←
        if c = '[' then readHeader? d s
        else if c = '#' ∨ c = '\n' ∨ c = '\r' then some (d, c :: s)
        else readEntry? d (c :: s)
      match ← skipComment? (skipBlanks s) with
      | [] => return d
      | s => readLinesOf? fuel d (← newline? s)

/-- The document that a text holds; none if it is no TOML. -/
def parse? (s : List Char) : Option Json :=
  let s := match s with
    | '\ufeff' :: s => s
    | s => s
  (readLinesOf? (s.length + 1) {} s).map fun d => .ofMembers (members d.root)

end RowGate.Toml
