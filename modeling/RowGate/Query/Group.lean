import RowGate.Query.Condition

/-! # Logical groups

`and=(…)` and `or=(…)`, nested. A group is read into a flat list of filters: the alternatives of a
disjunction share a number, and what has no number has to hold. A conjunction inside a disjunction
has no such form and is refused.
-/

namespace RowGate

open Text

inductive Connective where
  | and
  | or
deriving DecidableEq, Repr

def Connective.keyword : Connective → String
  | and => "and"
  | or => "or"

/-- Filters, and the last group number in use after them. -/
abbrev Numbered := List Filter × Nat

/-- Reads the text of a group: its connective, the number of the disjunction around it, and the last
number in use. -/
abbrev GroupReader := Connective → Option Nat → Nat → List Char → Except ParseError Numbered

/-- Reads the items of a group that stands in `whole`; `inner` reads the groups among them. -/
def readItems (inner : GroupReader) (conn : Connective) (number : Option Nat) (whole : List Char) :
    List (List Char) → Nat → Except ParseError Numbered
  | [], last => .ok ([], last)
  | raw :: items, last => do
    let item := trim raw
    let first ←
      if item = [] then .error ⟨String.ofList whole, .emptyFilter⟩
      else if (dropLead? "or(".toList item).isSome then inner .or number last (item.drop 2)
      else if (dropLead? "and(".toList item).isSome then
        if conn = .or then .error ⟨String.ofList item, .conjunctionInDisjunction⟩
        else inner .and none last (item.drop 3)
      else do
        let f ← Filter.ofCondition item
        pure ([{ f with group := number }], last)
    let rest ← readItems inner conn number whole items first.2
    return (first.1 ++ rest.1, rest.2)

/-- Reads a group that nests less deep than the fuel. -/
def readGroupWithin : Nat → GroupReader
  | 0, _, _, _, body => .error ⟨String.ofList body, .emptyGroup⟩
  | fuel + 1, conn, enclosing, last, body =>
    let whole := trim body
    match enclosed? '(' ')' whole with
    | none => .error ⟨String.ofList whole, .groupParentheses conn.keyword⟩
    | some inner => do
      let items ← Brackets.split ',' inner
      if items.all isBlankText then .error ⟨String.ofList whole, .emptyGroup⟩
      else match conn with
        | .and => readItems (readGroupWithin fuel) conn none whole items last
        | .or => match enclosing with
          | some g => readItems (readGroupWithin fuel) conn (some g) whole items last
          | none => readItems (readGroupWithin fuel) conn (some (last + 1)) whole items (last + 1)

/-- Reads the group of a parameter. Each level takes two characters at least, so the length of the
text bounds its depth. -/
def readGroup (conn : Connective) (last : Nat) (body : List Char) : Except ParseError Numbered :=
  readGroupWithin (body.length + 1) conn none last body

end RowGate
