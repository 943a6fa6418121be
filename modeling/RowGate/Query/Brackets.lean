import RowGate.Query.Error

/-! # Splitting outside brackets and quotes

A list in a query text is cut at its commas, but not at those inside brackets or double quotes. In
quotes a backslash takes the next character as it is. Main statement: the parts joined with the
separator are the text that was cut.
-/

namespace RowGate.Brackets

inductive Shape where
  | round
  | square
  | curly
deriving DecidableEq, Repr

def opening? : Char → Option Shape
  | '(' => some .round
  | '[' => some .square
  | '{' => some .curly
  | _ => none

def closing? : Char → Option Shape
  | ')' => some .round
  | ']' => some .square
  | '}' => some .curly
  | _ => none

inductive Quoting where
  | outside
  | inside
  | escaped
deriving DecidableEq, Repr

/-- Where a scan stands: inside quotes or not, and in which brackets, the innermost first. -/
structure State where
  quoting : Quoting := .outside
  pending : List Shape := []
deriving DecidableEq, Repr

/-- Outside of all brackets and quotes. -/
def State.isTop (st : State) : Bool := st.quoting = .outside && st.pending.isEmpty

/-- Reads a character; none if it closes a bracket that is not the innermost open one. -/
def State.step (st : State) (c : Char) : Option State :=
  match st.quoting with
  | .escaped => some { st with quoting := .inside }
  | .inside =>
    if c = '\\' then some { st with quoting := .escaped }
    else if c = '"' then some { st with quoting := .outside }
    else some st
  | .outside =>
    if c = '"' then some { st with quoting := .inside }
    else match opening? c with
      | some b => some { st with pending := b :: st.pending }
      | none => match closing? c with
        | none => some st
        | some b => match st.pending with
          | [] => none
          | b' :: bs => if b = b' then some { st with pending := bs } else none

/-- Why a text may not end here. -/
def State.fault? (st : State) : Option ParseFault :=
  if st.quoting ≠ .outside then some .unterminatedQuote
  else if st.pending.isEmpty then none
  else some .unbalanced

/-- The part that the text begins with, and the parts after it. -/
def splitFrom (d : Char) : State → List Char → Except ParseFault (List Char × List (List Char))
  | st, [] => match st.fault? with
    | some f => .error f
    | none => .ok ([], [])
  | st, c :: s => match st.step c with
    | none => .error .unbalanced
    | some st' => match splitFrom d st' s with
      | .error f => .error f
      | .ok (p, ps) => if c = d ∧ st.isTop then .ok ([], p :: ps) else .ok (c :: p, ps)

/-- The parts of a text between the separators outside brackets and quotes. -/
def split (d : Char) (s : List Char) : Except ParseError (List (List Char)) :=
  match splitFrom d {} s with
  | .ok (p, ps) => .ok (p :: ps)
  | .error f => .error ⟨String.ofList s, f⟩

theorem intercalate_append_cons (d : Char) (w p : List Char) (ps : List (List Char)) :
    [d].intercalate ((w ++ p) :: ps) = w ++ [d].intercalate (p :: ps) := by
  cases ps <;> simp [List.intercalate, List.intersperse]

theorem intercalate_nil_cons (d : Char) (p : List Char) (ps : List (List Char)) :
    [d].intercalate ([] :: p :: ps) = d :: [d].intercalate (p :: ps) := by
  simp [List.intercalate, List.intersperse]

theorem intercalate_splitFrom {d : Char} {st : State} {s p : List Char} {ps : List (List Char)}
    (h : splitFrom d st s = .ok (p, ps)) : [d].intercalate (p :: ps) = s := by
  induction s generalizing st p ps with
  | nil =>
    simp only [splitFrom] at h
    split at h <;> simp_all [List.intercalate]
  | cons c s ih =>
    simp only [splitFrom] at h
    split at h
    · cases h
    · split at h
      · cases h
      · rename_i hs
        have := ih hs
        split at h <;> cases h
        · rw [intercalate_nil_cons, this]
          simp_all
        · exact (intercalate_append_cons d [c] _ ps).trans (congrArg (c :: ·) this)

theorem intercalate_split {d : Char} {s : List Char} {ps : List (List Char)}
    (h : split d s = .ok ps) : [d].intercalate ps = s := by
  unfold split at h
  split at h
  · rename_i hs
    cases h
    exact intercalate_splitFrom hs
  · cases h

end RowGate.Brackets
