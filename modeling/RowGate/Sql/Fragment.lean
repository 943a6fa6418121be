import RowGate.Identifier
import RowGate.Sql.Value

/-! # SQL fragments

SQL text in pieces. Values stand in a fragment where they are bound; placeholders are numbered from
left to right when the fragment is written out, so the numbers follow the order of the values.
-/

namespace RowGate

/-- A piece of SQL text. -/
inductive Piece where
  /-- Keywords, operators and punctuation of the compiler's own. -/
  | fixed (s : String)
  /-- A quoted identifier. -/
  | name (i : Identifier)
  /-- A string literal: the key of a JSON member. -/
  | key (s : String)
  | number (n : Nat)
  /-- A bound value, with the type that its placeholder is cast to. -/
  | bound (v : SqlValue) (type : Option String)
deriving DecidableEq, Repr

abbrev Fragment := List Piece

/-- A string literal: in single quotes, with quotes inside written twice. -/
def stringLiteral (s : String) : String :=
  "'" ++ String.ofList (s.toList.flatMap fun c => if c = '\'' then ['\'', '\''] else [c]) ++ "'"

/-- The `n`-th placeholder of a statement. A vector is always cast to its type. -/
def placeholder (n : Nat) (v : SqlValue) (type : Option String) : String :=
  let type := if v.isVector then some "vector" else type
  match type with
  | some t => "$" ++ toString n ++ "::" ++ t
  | none => "$" ++ toString n

namespace Fragment

/-- The text, with placeholders numbered after the `k` that are taken. -/
def textFrom : Nat → Fragment → String
  | _, [] => ""
  | k, .fixed s :: ps => s ++ textFrom k ps
  | k, .name i :: ps => i.quoted ++ textFrom k ps
  | k, .key s :: ps => stringLiteral s ++ textFrom k ps
  | k, .number n :: ps => toString n ++ textFrom k ps
  | k, .bound v type :: ps => placeholder (k + 1) v type ++ textFrom (k + 1) ps

def text (f : Fragment) : String := textFrom 0 f

/-- The bound values in the order of their placeholders. -/
def values : Fragment → List SqlValue
  | [] => []
  | .bound v _ :: ps => v :: values ps
  | _ :: ps => values ps

/-- The fragments with a separator between them. -/
def join (sep : String) (fs : List Fragment) : Fragment := [Piece.fixed sep].intercalate fs

/-- In parentheses. -/
def paren (f : Fragment) : Fragment := .fixed "(" :: f ++ [.fixed ")"]

@[simp] theorem values_append (f g : Fragment) : values (f ++ g) = values f ++ values g := by
  induction f with
  | nil => rfl
  | cons p ps ih => cases p <;> simp [values, ih]

theorem textFrom_append (k : Nat) (f g : Fragment) :
    textFrom k (f ++ g) = textFrom k f ++ textFrom (k + (values f).length) g := by
  induction f generalizing k with
  | nil => simp [textFrom, values]
  | cons p ps ih =>
    cases p <;> simp [textFrom, values, ih, String.append_assoc, Nat.add_assoc, Nat.add_comm 1]

end Fragment

/-- A statement ready for the server: its text and its positional arguments. -/
structure Statement where
  sql : String
  params : List SqlValue
deriving DecidableEq, Repr

def Fragment.statement (f : Fragment) : Statement := ⟨f.text, f.values⟩

end RowGate
