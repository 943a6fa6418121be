/-! # Cutting text at separators -/

namespace RowGate.Text

/-- What stands before and after the first `d`, if there is one. -/
def cutFirst (d : Char) : List Char → Option (List Char × List Char)
  | [] => none
  | c :: s => if c = d then some ([], s) else (cutFirst d s).map fun p => (c :: p.1, p.2)

/-- What stands before and after the last `d`, if there is one. -/
def cutLast (d : Char) : List Char → Option (List Char × List Char)
  | [] => none
  | c :: s =>
    match cutLast d s with
    | some p => some (c :: p.1, p.2)
    | none => if c = d then some ([], s) else none

/-- The stretches between the occurrences of `d`: one more than there are of them. -/
def pieces (d : Char) : List Char → List (List Char)
  | [] => [[]]
  | c :: s =>
    if c = d then [] :: pieces d s
    else match pieces d s with
      | [] => [[c]]
      | p :: ps => (c :: p) :: ps

/-- The stretches between the arrows `->`, read from the left. -/
def arrowPieces : List Char → List (List Char)
  | [] => [[]]
  | '-' :: '>' :: s => [] :: arrowPieces s
  | c :: s =>
    match arrowPieces s with
    | [] => [[c]]
    | p :: ps => (c :: p) :: ps

/-- The rest of `s` after the leading text `p`. -/
def dropLead? : List Char → List Char → Option (List Char)
  | [], s => some s
  | _ :: _, [] => none
  | c :: p, d :: s => if c = d then dropLead? p s else none

/-- The text before the last character, which has to be `d`. -/
def dropFinal? (d : Char) (s : List Char) : Option (List Char) :=
  if s.getLast? = some d then some s.dropLast else none

/-- What two enclosing characters hold; they are two, so `(` alone holds nothing. -/
def enclosed? (l r : Char) : List Char → Option (List Char)
  | [] => none
  | c :: s => if c = l then dropFinal? r s else none

/-- Replaces each `c` by the text `new`. -/
def replaceChar (c : Char) (new : List Char) (s : List Char) : List Char :=
  s.flatMap fun d => if d = c then new else [d]

/-- Replaces each occurrence of the two characters `a b`, read from the left, by `r`. -/
def replacePair (a b r : Char) : List Char → List Char
  | [] => []
  | [c] => [c]
  | c :: d :: s =>
    if c = a ∧ d = b then r :: replacePair a b r s else c :: replacePair a b r (d :: s)

def lower (s : List Char) : List Char := s.map Char.toLower

theorem length_dropFinal?_lt {d : Char} {s t : List Char} (h : dropFinal? d s = some t) :
    t.length < s.length := by
  simp only [dropFinal?, Option.ite_none_right_eq_some, Option.some.injEq] at h
  obtain ⟨h, rfl⟩ := h
  have : s ≠ [] := by rintro rfl; simp at h
  have := List.length_pos_iff.2 this
  simp only [List.length_dropLast]
  omega

theorem length_enclosed?_lt {l r : Char} {s t : List Char} (h : enclosed? l r s = some t) :
    t.length < s.length := by
  cases s with
  | nil => simp [enclosed?] at h
  | cons c s =>
    simp only [enclosed?, Option.ite_none_right_eq_some] at h
    have := length_dropFinal?_lt h.2
    simp only [List.length_cons]
    omega

theorem pieces_ne_nil (d : Char) (s : List Char) : pieces d s ≠ [] := by
  cases s with
  | nil => simp [pieces]
  | cons c s =>
    rw [pieces]
    split
    · simp
    · split <;> simp

theorem arrowPieces_ne_nil (s : List Char) : arrowPieces s ≠ [] := by
  fun_cases arrowPieces s <;> simp_all

end RowGate.Text
