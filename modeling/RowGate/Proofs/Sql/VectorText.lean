import Mathlib.Algebra.Ring.Nat
import RowGate.Proofs.Text.Cut
import RowGate.Proofs.Text.Trim
import RowGate.Sql.Value

/-! # Vector literals of texts

The literal of a text is made of the elements between its commas, without the brackets around them.
Brackets are dropped in one sweep at each end, so what decides is whether a bracket comes to stand
at the end of an element: behind blanks or commas another bracket is kept, and a second
normalisation finds it. Brackets that stand together are dropped however many they are.
-/

namespace RowGate.VectorText

open Text

/-- Blanks and commas stand between the elements of a vector. -/
def isSeparator (c : Char) : Bool := isBlank c || c == ','

/-- The stretches between commas, without the blanks around them and without the empty ones. -/
def elements (s : List Char) : List (List Char) :=
  ((pieces ',' s).map trim).filter fun p ↦ !p.isEmpty

def join (es : List (List Char)) : List Char := [','].intercalate es

/-- What is left of a text without the brackets at its ends. -/
def unbracket (s : List Char) : List Char := (s.dropWhile (· == '[')).rdropWhile (· == ']')

/-- A literal is its elements between brackets, with commas between them. -/
theorem toList_vectorLiteral (es : List (List Char)) :
    (vectorLiteral (es.map String.ofList)).toList = '[' :: join es ++ [']'] := by
  have hes : (es.map String.ofList).map String.toList = es := by
    rw [List.map_map]
    exact (List.map_congr_left fun _ _ ↦ String.toList_ofList).trans (List.map_id es)
  rw [vectorLiteral, String.toList_append, String.toList_append, String.toList_intercalate, hes]
  rfl

/-- What is bound for a text is the literal of its elements. -/
theorem toList_vectorOfText (s : List Char) :
    (vectorOfText s).toList = '[' :: join (elements (unbracket (trim s))) ++ [']'] :=
  toList_vectorLiteral _

variable {b c d : Char} {s t l r e : List Char} {es : List (List Char)}

theorem isBlank_of_isSeparator (h : isSeparator c = true) (hc : c ≠ ',') : isBlank c = true := by
  simpa [isSeparator, hc] using h

theorem isBlank_eq_false (h : isSeparator c = false) : isBlank c = false := by
  simp only [isSeparator, Bool.or_eq_false_iff] at h
  exact h.1

theorem ne_comma (h : isSeparator c = false) : c ≠ ',' := by
  rintro rfl
  cases h

/-! ## Separators at the ends -/

/-- Texts that differ in the blanks of one stretch have the same elements. -/
theorem elements_of_pieces_eq {ps ps' : List (List Char)} {p p' : List Char}
    (hs : pieces ',' s = ps ++ p :: ps') (ht : pieces ',' t = ps ++ p' :: ps')
    (h : trim p = trim p') : elements s = elements t := by
  simp only [elements, hs, ht, List.map_append, List.map_cons, h]

theorem elements_cons (h : isSeparator c = true) (s : List Char) :
    elements (c :: s) = elements s := by
  by_cases hc : c = ','
  · subst hc
    simp [elements, pieces]
  · have hblank : AllBlank [c] := List.forall_mem_singleton.mpr (isBlank_of_isSeparator h hc)
    cases hs : pieces ',' s with
    | nil => exact absurd hs (pieces_ne_nil ',' s)
    | cons p ps =>
      have hcs : pieces ',' (c :: s) = [] ++ (c :: p) :: ps := by
        simp [pieces, hc, hs]
      exact elements_of_pieces_eq hcs hs (trim_append_left hblank p)

theorem elements_concat (h : isSeparator c = true) (s : List Char) :
    elements (s ++ [c]) = elements s := by
  by_cases hc : c = ','
  · subst hc
    simp [elements, pieces_append, pieces]
  · have hblank : AllBlank [c] := List.forall_mem_singleton.mpr (isBlank_of_isSeparator h hc)
    obtain ⟨ps, p, hs, hsc⟩ := pieces_concat hc s
    exact elements_of_pieces_eq hsc hs (trim_append_right hblank p)

/-- Separators in front of a text add no elements. -/
theorem elements_append_left (h : ∀ c ∈ s, isSeparator c = true) (t : List Char) :
    elements (s ++ t) = elements t := by
  induction s with
  | nil => rfl
  | cons c s ih =>
    rw [List.forall_mem_cons] at h
    rw [List.cons_append, elements_cons h.1, ih h.2]

/-- Separators behind a text add no elements. -/
theorem elements_append_right (h : ∀ c ∈ t, isSeparator c = true) (s : List Char) :
    elements (s ++ t) = elements s := by
  induction t using List.reverseRecOn with
  | nil => rw [List.append_nil]
  | append_singleton t c ih =>
    rw [List.forall_mem_append, List.forall_mem_singleton] at h
    rw [← List.append_assoc, elements_concat h.2, ih h.1]

/-! ## The ends of the joined elements -/

/-- Joined elements begin as the first of them does. -/
theorem head?_join_cons (he : e ≠ []) (es : List (List Char)) :
    (join (e :: es)).head? = e.head? := by
  cases es with
  | nil => rw [join, List.intercalate_singleton]
  | cons e' es =>
    obtain ⟨c, e, rfl⟩ := List.exists_cons_of_ne_nil he
    simp [join, List.intercalate_cons_cons]

/-- Joined elements end as the last of them does. -/
theorem getLast?_join_concat (he : e ≠ []) (es : List (List Char)) :
    (join (es ++ [e])).getLast? = e.getLast? := by
  induction es with
  | nil => rw [join, List.nil_append, List.intercalate_singleton]
  | cons e₁ es ih =>
    obtain ⟨e₂, es₂, hes⟩ :=
      List.exists_cons_of_ne_nil (List.append_ne_nil_of_right_ne_nil es (List.cons_ne_nil e []))
    rw [hes, join, List.getLast?_eq_some_getLast he] at ih
    rw [List.cons_append, hes, join, List.intercalate_cons_cons, List.getLast?_append, ih,
      Option.some_or, List.getLast?_eq_some_getLast he]

/-- The joined elements begin with the first character that is no separator. -/
theorem head?_join_elements (s : List Char) :
    (join (elements s)).head? = (s.dropWhile isSeparator).head? := by
  induction s with
  | nil => rfl
  | cons c s ih =>
    cases hc : isSeparator c with
    | true => rw [elements_cons hc, ih, List.dropWhile_cons_of_pos hc]
    | false =>
      cases hs : pieces ',' s with
      | nil => exact absurd hs (pieces_ne_nil ',' s)
      | cons p ps =>
        have hpieces : pieces ',' (c :: s) = (c :: p) :: ps := by
          simp [pieces, ne_comma hc, hs]
        have hstart : trimStart (c :: p) = c :: p := by
          simp [trimStart, isBlank_eq_false hc]
        have hhead : (trim (c :: p)).head? = some c := by
          rw [trim, hstart, trimEnd_eq_rdropWhile, head?_rdropWhile (isBlank_eq_false hc)]
          rfl
        have hne : trim (c :: p) ≠ [] := by
          intro h
          rw [h] at hhead
          cases hhead
        rw [elements, hpieces, List.map_cons, List.filter_cons_of_pos (by simpa using hne),
          head?_join_cons hne, hhead, List.dropWhile_cons_of_neg (by simp [hc])]
        rfl

/-- The joined elements end with the last character that is no separator. -/
theorem getLast?_join_elements (s : List Char) :
    (join (elements s)).getLast? = (s.rdropWhile isSeparator).getLast? := by
  induction s using List.reverseRecOn with
  | nil => rfl
  | append_singleton s c ih =>
    cases hc : isSeparator c with
    | true => rw [elements_concat hc, ih, List.rdropWhile_concat_pos _ _ _ hc]
    | false =>
      obtain ⟨ps, p, -, hpieces⟩ := pieces_concat (ne_comma hc) s
      have hlast : (trim (p ++ [c])).getLast? = some c := by
        rw [trim, trimEnd_eq_rdropWhile, trimStart, ← dropWhile_rdropWhile,
          List.rdropWhile_concat_neg _ _ _ (by simp [isBlank_eq_false hc]),
          getLast?_dropWhile (isBlank_eq_false hc), List.getLast?_concat]
      have hne : trim (p ++ [c]) ≠ [] := by
        intro h
        rw [h] at hlast
        cases hlast
      rw [elements, hpieces, List.map_append, List.filter_append, List.map_singleton,
        List.filter_cons_of_pos (by simpa using hne), List.filter_nil, getLast?_join_concat hne,
        hlast, List.rdropWhile_concat_neg _ _ _ (by simp [hc]), List.getLast?_concat]

/-! ## Elements read again -/

/-- Joined elements have a comma less than there are elements. -/
theorem length_join (es : List (List Char)) :
    (join es).length = (es.map fun e ↦ e.length + 1).sum - 1 := by
  match es with
  | [] => rfl
  | [e] => simp [join]
  | e :: e' :: es =>
    have ih := length_join (e' :: es)
    rw [join] at ih
    simp only [join, List.intercalate_cons_cons, List.length_append, ih, List.map_cons,
      List.sum_cons, List.length_singleton]
    omega

/-- The stretches between commas are all of a text but the commas. -/
theorem sum_length_pieces (s : List Char) :
    ((pieces ',' s).map fun e ↦ e.length + 1).sum = s.length + 1 := by
  induction s with
  | nil => rfl
  | cons c s ih =>
    rw [pieces]
    split
    · simp [ih, Nat.add_comm]
    · cases hs : pieces ',' s with
      | nil => exact absurd hs (pieces_ne_nil ',' s)
      | cons p ps =>
        simp only [hs, List.map_cons, List.sum_cons, List.length_cons] at ih ⊢
        omega

/-- The joined elements are no longer than what they were read from. -/
theorem length_join_elements_le (s : List Char) : (join (elements s)).length ≤ s.length := by
  have hsum (ps : List (List Char)) :
      (((ps.map trim).filter fun p ↦ !p.isEmpty).map fun e ↦ e.length + 1).sum ≤
        (ps.map fun e ↦ e.length + 1).sum := by
    induction ps with
    | nil => rfl
    | cons p ps ih =>
      have htrim := length_trim_le p
      rw [List.map_cons, List.filter_cons]
      split
      · simp only [List.map_cons, List.sum_cons]
        omega
      · simp only [List.map_cons, List.sum_cons]
        omega
  have hle := hsum (pieces ',' s)
  rw [sum_length_pieces] at hle
  rw [length_join, elements]
  omega

/-- Elements without commas are found again, trimmed, and without the empty ones. -/
theorem elements_join (hne : es ≠ []) (h : ∀ e ∈ es, ',' ∉ e) :
    elements (join es) = (es.map trim).filter fun e ↦ !e.isEmpty := by
  rw [elements, join, pieces_intercalate hne h]

/-- Elements hold no comma, are trimmed and not empty. -/
theorem of_mem_elements (h : e ∈ elements s) : ',' ∉ e ∧ trim e = e ∧ e ≠ [] := by
  obtain ⟨hmem, hne⟩ := List.mem_filter.mp h
  obtain ⟨p, hp, rfl⟩ := List.mem_map.mp hmem
  have htrim : trim p <:+: p := isInfix_trim p
  exact ⟨fun hc ↦ notMem_of_mem_pieces hp (htrim.subset hc), trim_trim p,
    by simpa using hne⟩

/-- The elements of a text are found again when they are joined. -/
theorem elements_join_elements (s : List Char) : elements (join (elements s)) = elements s := by
  by_cases hne : elements s = []
  · rw [hne]
    rfl
  · rw [elements_join hne fun e he ↦ (of_mem_elements he).1,
      List.map_congr_left fun e he ↦ (of_mem_elements he).2.1, List.map_id', List.filter_eq_self]
    exact fun e he ↦ by simpa using (of_mem_elements he).2.2

/-! ## Brackets at the ends -/

theorem unbracket_sublist (s : List Char) : (unbracket s).Sublist s :=
  (List.rdropWhile_prefix _ _).sublist.trans (List.dropWhile_sublist _)

/-- The brackets around a literal are dropped, and with them those of its elements. -/
theorem unbracket_trim_literal (s : List Char) :
    unbracket (trim ('[' :: s ++ [']'])) = unbracket s := by
  rw [trim_cons_append rfl rfl, unbracket, List.cons_append, List.dropWhile_cons_of_pos rfl,
    dropWhile_append_of_head? (c := ']') rfl rfl, List.rdropWhile_concat_pos _ _ _ rfl, unbracket]

/-- There are no brackets to take off if a text begins and ends with none. -/
theorem unbracket_eq_self_iff (s : List Char) :
    unbracket s = s ↔ s.head? ≠ some '[' ∧ s.getLast? ≠ some ']' := by
  constructor
  · intro h
    refine ⟨fun hhead ↦ ?_, fun hlast ↦ ?_⟩
    · obtain ⟨t, rfl⟩ := List.head?_eq_some_iff.mp hhead
      have hshort := ((List.rdropWhile_prefix (· == ']') _).sublist.trans
        (List.dropWhile_sublist (· == '[') (l := t))).length_le
      rw [unbracket, List.dropWhile_cons_of_pos rfl] at h
      rw [h, List.length_cons] at hshort
      omega
    · obtain ⟨t, rfl⟩ := List.getLast?_eq_some_iff.mp hlast
      have hshort := ((List.dropWhile_sublist (· == '[')).trans
        (List.rdropWhile_prefix (· == ']') t).sublist).length_le
      rw [unbracket, ← dropWhile_rdropWhile, List.rdropWhile_concat_pos _ _ _ rfl] at h
      rw [h, List.length_append, List.length_singleton] at hshort
      omega
  · rintro ⟨hhead, hlast⟩
    have hopen : s.dropWhile (· == '[') = s := by
      cases s with
      | nil => rfl
      | cons c s =>
        have hc : c ≠ '[' := fun hc ↦ hhead (congrArg some hc)
        exact List.dropWhile_cons_of_neg (by simpa using hc)
    rw [unbracket, hopen, List.rdropWhile_eq_self_iff]
    intro hne hclose
    rw [List.getLast?_eq_some_getLast hne] at hlast
    exact hlast (congrArg some (by simpa using hclose))

/-- A literal is its own literal if its elements neither begin nor end with a bracket. -/
theorem vectorOfText_vectorOfText_iff (s : List Char) :
    vectorOfText (vectorOfText s).toList = vectorOfText s ↔
      unbracket (join (elements (unbracket (trim s)))) = join (elements (unbracket (trim s))) := by
  generalize hx : join (elements (unbracket (trim s))) = x
  have hliteral : (vectorOfText s).toList = '[' :: x ++ [']'] := by
    rw [toList_vectorOfText, hx]
  have hagain : (vectorOfText (vectorOfText s).toList).toList =
      '[' :: join (elements (unbracket x)) ++ [']'] := by
    rw [toList_vectorOfText, hliteral, unbracket_trim_literal]
  rw [← String.toList_inj, hagain, hliteral, List.append_left_inj, List.cons_inj_right]
  constructor
  · intro h
    have hle : (join (elements (unbracket x))).length ≤ (unbracket x).length :=
      length_join_elements_le _
    rw [h] at hle
    exact (unbracket_sublist x).eq_of_length_le hle
  · intro h
    rw [h, ← hx, elements_join_elements]

/-- Behind the brackets that a text begins with there is another one, after blanks or commas. -/
def Reopens (b : Char) (s : List Char) : Prop :=
  (((s.dropWhile isBlank).dropWhile (· == b)).dropWhile isSeparator).head? = some b

instance (b : Char) (s : List Char) : Decidable (Reopens b s) :=
  inferInstanceAs (Decidable (_ = _))

/-- The literal holds a bracket at its beginning if the text opens one again. -/
theorem head?_elements_unbracket (s : List Char) :
    (join (elements (unbracket (trim s)))).head? = some '[' ↔ Reopens '[' s := by
  rw [head?_join_elements, unbracket, trim, trimEnd_eq_rdropWhile, trimStart]
  simp only [dropWhile_rdropWhile]
  rw [head?_rdropWhile rfl, head?_rdropWhile rfl, Reopens]

/-- The literal holds a bracket at its end if the text read backwards closes one again. -/
theorem getLast?_elements_unbracket (s : List Char) :
    (join (elements (unbracket (trim s)))).getLast? = some ']' ↔ Reopens ']' s.reverse := by
  rw [getLast?_join_elements, unbracket, trim, trimEnd_eq_rdropWhile, trimStart]
  simp only [← dropWhile_rdropWhile]
  rw [getLast?_dropWhile rfl, getLast?_dropWhile rfl, Reopens]
  simp only [List.rdropWhile, List.reverse_reverse, List.getLast?_reverse]

/-! ## Brackets around a list -/

/-- Blanks and brackets. -/
def Encloses (b : Char) (s : List Char) : Prop := ∀ c ∈ s, isBlank c = true ∨ c = b

/-- The brackets of a text stand together, between blanks. -/
def Gathered (b : Char) (s : List Char) : Prop :=
  AllBlank ((s.dropWhile isBlank).dropWhile (· == b))

instance (b : Char) (s : List Char) : Decidable (Encloses b s) := List.decidableBAll _ _

instance (b : Char) (s : List Char) : Decidable (Gathered b s) := List.decidableBAll _ _

/-- The text of a list begins with neither a blank nor a bracket, and no bracket opens its first
element that is not empty. -/
structure Opens (b : Char) (s : List Char) : Prop where
  first : ∃ c, s.head? = some c ∧ isBlank c = false ∧ c ≠ b
  bare : (s.dropWhile isSeparator).head? ≠ some b

/-- Elements as they are written between commas, without brackets around them. -/
structure Listed (es : List (List Char)) : Prop where
  noComma : ∀ e ∈ es, ',' ∉ e
  left : Opens '[' (join es)
  right : Opens ']' (join es).reverse

/-- Of brackets around a list, those go that stand together at either end. -/
theorem unbracket_trim_append (hleft : Opens '[' t) (hright : Opens ']' t.reverse)
    (l r : List Char) :
    unbracket (trim (l ++ t ++ r)) =
      (l.dropWhile isBlank).dropWhile (· == '[') ++ t ++
        ((r.reverse.dropWhile isBlank).dropWhile (· == ']')).reverse := by
  obtain ⟨c, hhead, hc, hopen⟩ := hleft.first
  obtain ⟨d, hlast, hd, hclose⟩ := hright.first
  rw [List.head?_reverse] at hlast
  have hfirst (u : List Char) : (t ++ u).head? = some c := by
    rw [List.head?_append, hhead, Option.some_or]
  have hend (u : List Char) : (u ++ t).getLast? = some d := by
    rw [List.getLast?_append, hlast, Option.some_or]
  have hr : ((r.reverse.dropWhile isBlank).dropWhile (· == ']')).reverse =
      (r.rdropWhile isBlank).rdropWhile (· == ']') := by
    simp only [List.rdropWhile, List.reverse_reverse]
  rw [trim, trimEnd_eq_rdropWhile, trimStart, List.append_assoc,
    dropWhile_append_of_head? hc (hfirst r), ← List.append_assoc,
    rdropWhile_append_of_getLast? hd (hend _), unbracket, List.append_assoc,
    dropWhile_append_of_head? (by simpa using hopen) (hfirst _), ← List.append_assoc,
    rdropWhile_append_of_getLast? (by simpa using hclose) (hend _), hr]

/-- Of blanks and brackets that do not stand together, a bracket is the first to stay. -/
theorem head?_dropWhile_of_not_allBlank (hb : isSeparator b = false) (hs : Encloses b s)
    (h : ¬AllBlank s) (t : List Char) :
    ((s ++ t).dropWhile isSeparator).head? = some b := by
  induction s with
  | nil => exact absurd (List.forall_mem_nil _) h
  | cons c s ih =>
    obtain ⟨hc, hs⟩ := List.forall_mem_cons.mp hs
    rcases hc with hc | rfl
    · have hsep : isSeparator c = true := by simp [isSeparator, hc]
      have hrest : ¬AllBlank s := fun hs ↦ h (List.forall_mem_cons.mpr ⟨hc, hs⟩)
      rw [List.cons_append, List.dropWhile_cons_of_pos hsep, ih hs hrest]
    · rw [List.cons_append, List.dropWhile_cons_of_neg (by simp [hb])]
      rfl

/-- A bracket that does not stand with the others is left in front of the list. -/
theorem head?_of_not_gathered (hb : isSeparator b = false) (hl : Encloses b l)
    (h : ¬Gathered b l) (t : List Char) :
    (((l.dropWhile isBlank).dropWhile (· == b) ++ t).dropWhile isSeparator).head? = some b :=
  head?_dropWhile_of_not_allBlank hb
    (fun c hc ↦ hl c ((List.dropWhile_suffix _).subset ((List.dropWhile_suffix _).subset hc))) h t

/-- Brackets around a list are dropped if those at each end stand together, and only then. -/
theorem vectorOfText_append_iff (hes : Listed es) (hl : Encloses '[' l)
    (hr : Encloses ']' r.reverse) :
    vectorOfText (l ++ join es ++ r) =
        vectorLiteral (((es.map trim).filter fun e ↦ !e.isEmpty).map String.ofList) ↔
      Gathered '[' l ∧ Gathered ']' r.reverse := by
  obtain ⟨hcomma, hleft, hright⟩ := hes
  have hne : es ≠ [] := by
    rintro rfl
    obtain ⟨c, hc, -⟩ := hleft.first
    cases hc
  rw [← elements_join hne hcomma, ← String.toList_inj, toList_vectorOfText, toList_vectorLiteral,
    List.append_left_inj, List.cons_inj_right, unbracket_trim_append hleft hright]
  generalize join es = t at hleft hright
  constructor
  · intro h
    refine ⟨by_contra fun hgathered ↦ hleft.bare ?_, by_contra fun hgathered ↦ hright.bare ?_⟩
    · have hfirst := congrArg List.head? h
      rwa [head?_join_elements, head?_join_elements, List.append_assoc,
        head?_of_not_gathered rfl hl hgathered, eq_comm] at hfirst
    · have hend := congrArg List.getLast? h
      rwa [getLast?_join_elements, getLast?_join_elements, List.rdropWhile, List.reverse_append,
        List.reverse_reverse, List.getLast?_reverse, head?_of_not_gathered rfl hr hgathered,
        eq_comm, List.rdropWhile, List.getLast?_reverse] at hend
  · rintro ⟨hgl, hgr⟩
    rw [elements_append_right, elements_append_left]
    · exact fun c hc ↦ by simp [isSeparator, hgl c hc]
    · exact fun c hc ↦ by simp [isSeparator, hgr c (List.mem_reverse.mp hc)]

/-- A normalised text is normalised to itself, and the brackets around a list, be they missing or
repeated, leave one literal of its elements: unless another bracket follows the outer ones behind
blanks (or, of a text that is normalised twice, behind commas), at the beginning or, backwards, at
the end. -/
theorem vectorOfText_stable_iff (s : List Char) :
    (vectorOfText (vectorOfText s).toList = vectorOfText s ↔
      ¬Reopens '[' s ∧ ¬Reopens ']' s.reverse) ∧
    ∀ es l r, Listed es → Encloses '[' l → Encloses ']' r.reverse →
      (vectorOfText (l ++ join es ++ r) =
          vectorLiteral (((es.map trim).filter fun e ↦ !e.isEmpty).map String.ofList) ↔
        Gathered '[' l ∧ Gathered ']' r.reverse) := by
  refine ⟨?_, fun es l r hes hl hr ↦ vectorOfText_append_iff hes hl hr⟩
  rw [vectorOfText_vectorOfText_iff, unbracket_eq_self_iff, ne_eq, ne_eq,
    head?_elements_unbracket, getLast?_elements_unbracket]

/-- Two brackets before the elements, one behind them, and blanks. -/
theorem vectorOfText_stable_doubled :
    vectorOfText (vectorOfText " [[1, 2] ".toList).toList = vectorOfText " [[1, 2] ".toList ∧
      vectorOfText " [[1, 2] ".toList = "[1,2]" := by
  have hlisted : Listed [['1'], [' ', '2']] :=
    { noComma := by decide
      left := ⟨⟨'1', rfl, rfl, by decide⟩, by decide⟩
      right := ⟨⟨'2', rfl, rfl, by decide⟩, by decide⟩ }
  have hleft : Encloses '[' [' ', '[', '['] := by decide
  have hright : Encloses ']' [']', ' '].reverse := by decide
  have hgathered : Gathered '[' [' ', '[', '['] ∧ Gathered ']' [']', ' '].reverse := by decide
  obtain ⟨hagain, hone⟩ := vectorOfText_stable_iff " [[1, 2] ".toList
  exact ⟨hagain.mpr (by decide), (hone _ _ _ hlisted hleft hright).mpr hgathered⟩

/-- Two brackets with a blank between them: one stays, and is found the next time. -/
theorem vectorOfText_not_stable :
    vectorOfText "[ [1,2] ]".toList = "[[1,2]]" ∧ vectorOfText "[[1,2]]".toList = "[1,2]" := by
  decide

end RowGate.VectorText
