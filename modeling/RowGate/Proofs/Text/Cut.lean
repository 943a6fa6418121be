import Mathlib.Data.List.Basic
import RowGate.Text.Cut

/-! # Cutting joined text

A cut at a separator finds the stretches that were joined with it, as long as they do not hold it
themselves.
-/

namespace RowGate.Text

variable {d : Char} {s : List Char}

/-- A text before the first separator and a text behind it. -/
theorem cutFirst_cons (h : d ∉ s) (t : List Char) : cutFirst d (s ++ d :: t) = some (s, t) := by
  induction s with
  | nil => simp [cutFirst]
  | cons c s ih =>
    rw [List.mem_cons, not_or] at h
    have hc : c ≠ d := fun hcd ↦ h.1 hcd.symm
    simp [cutFirst, hc, ih h.2]

theorem cutFirst_eq_none (h : d ∉ s) : cutFirst d s = none := by
  induction s with
  | nil => rfl
  | cons c s ih =>
    rw [List.mem_cons, not_or] at h
    have hc : c ≠ d := fun hcd ↦ h.1 hcd.symm
    simp [cutFirst, hc, ih h.2]

theorem cutLast_eq_none (h : d ∉ s) : cutLast d s = none := by
  induction s with
  | nil => rfl
  | cons c s ih =>
    rw [List.mem_cons, not_or] at h
    have hc : c ≠ d := fun hcd ↦ h.1 hcd.symm
    simp [cutLast, hc, ih h.2]

/-- A text before the last separator and a text behind it. -/
theorem cutLast_cons (s : List Char) {t : List Char} (h : d ∉ t) :
    cutLast d (s ++ d :: t) = some (s, t) := by
  induction s with
  | nil => simp [cutLast, cutLast_eq_none h]
  | cons c s ih => simp [cutLast, ih]

/-- A text that holds the separator has a last one. -/
theorem exists_eq_append_last (h : d ∈ s) : ∃ t u, s = t ++ d :: u ∧ d ∉ u := by
  obtain ⟨u, t, hs, hu⟩ := List.eq_append_cons_of_mem (List.mem_reverse.mpr h)
  refine ⟨t.reverse, u.reverse, ?_, ?_⟩
  · simpa using congrArg List.reverse hs
  · simpa using hu

/-- A text is cut at a separator that stands in it. -/
theorem eq_append_of_cutFirst {a b : List Char} (h : cutFirst d s = some (a, b)) :
    s = a ++ d :: b := by
  induction s generalizing a with
  | nil => cases h
  | cons c s ih =>
    rw [cutFirst] at h
    split at h
    next hc =>
      cases h
      rw [hc, List.nil_append]
    next hc =>
      obtain ⟨p, hp, hpair⟩ := Option.map_eq_some_iff.mp h
      cases hpair
      rw [ih hp, List.cons_append]

/-- A lead is there if the text begins with it. -/
theorem dropLead?_eq_none_iff {lead s : List Char} : dropLead? lead s = none ↔ ¬lead <+: s := by
  induction lead generalizing s with
  | nil => simp [dropLead?]
  | cons c lead ih =>
    cases s with
    | nil => simp [dropLead?]
    | cons e s =>
      rw [dropLead?, List.cons_prefix_cons]
      by_cases hce : c = e
      · simp [hce, ih]
      · simp [hce]

theorem prefix_of_dropLead? {lead s : List Char} (h : (dropLead? lead s).isSome = true) :
    lead <+: s := by
  by_contra hlead
  rw [dropLead?_eq_none_iff.mpr hlead] at h
  cases h

/-- A text between the two characters that enclose it. -/
theorem enclosed?_cons_append (l r : Char) (s : List Char) :
    enclosed? l r (l :: s ++ [r]) = some s := by
  simp [enclosed?, dropFinal?]

/-- What two characters enclose is a part of the text. -/
theorem infix_of_enclosed? {l r : Char} {t : List Char} (h : enclosed? l r s = some t) :
    t <:+: s := by
  cases s with
  | nil => cases h
  | cons c s =>
    rw [enclosed?, dropFinal?] at h
    split at h
    · split at h <;> cases h
      exact (List.dropLast_prefix s).isInfix.trans (List.suffix_cons c s).isInfix
    · cases h

/-- A character that does not begin the pair stays. -/
theorem replacePair_cons {a b r c : Char} (h : ¬(c = a ∧ s.head? = some b)) :
    replacePair a b r (c :: s) = c :: replacePair a b r s := by
  cases s with
  | nil => rfl
  | cons d s => rw [replacePair, if_neg fun h' ↦ h ⟨h'.1, congrArg some h'.2⟩]

theorem pieces_of_notMem (h : d ∉ s) : pieces d s = [s] := by
  induction s with
  | nil => rfl
  | cons c s ih =>
    rw [List.mem_cons, not_or] at h
    have hc : c ≠ d := fun hcd ↦ h.1 hcd.symm
    simp [pieces, hc, ih h.2]

/-- The stretches on both sides of a separator. -/
theorem pieces_append (d : Char) (s t : List Char) :
    pieces d (s ++ d :: t) = pieces d s ++ pieces d t := by
  induction s with
  | nil => simp [pieces]
  | cons c s ih =>
    rw [List.cons_append, pieces, pieces, ih]
    split
    · rfl
    · cases h : pieces d s with
      | nil => exact absurd h (pieces_ne_nil d s)
      | cons p ps => rfl

/-- A character that is no separator is added to the last stretch. -/
theorem pieces_concat {c : Char} (hc : c ≠ d) (s : List Char) :
    ∃ ps p, pieces d s = ps ++ [p] ∧ pieces d (s ++ [c]) = ps ++ [p ++ [c]] := by
  induction s with
  | nil => exact ⟨[], [], rfl, by simp [pieces, hc]⟩
  | cons e s ih =>
    obtain ⟨ps, p, hs, hsc⟩ := ih
    by_cases he : e = d
    · exact ⟨[] :: ps, p, by simp [pieces, he, hs], by simp [pieces, he, hsc]⟩
    · cases ps with
      | nil => exact ⟨[], e :: p, by simp [pieces, he, hs], by simp [pieces, he, hsc]⟩
      | cons q ps =>
        exact ⟨(e :: q) :: ps, p, by simp [pieces, he, hs], by simp [pieces, he, hsc]⟩

/-- A stretch does not hold the separator. -/
theorem notMem_of_mem_pieces {p : List Char} (h : p ∈ pieces d s) : d ∉ p := by
  induction s generalizing p with
  | nil => simp_all [pieces]
  | cons c s ih =>
    by_cases hc : c = d
    · rw [pieces, if_pos hc, List.mem_cons] at h
      rcases h with rfl | h
      · exact List.not_mem_nil
      · exact ih h
    · cases hs : pieces d s with
      | nil => exact absurd hs (pieces_ne_nil d s)
      | cons q qs =>
        rw [pieces, if_neg hc, hs] at h
        rw [hs] at ih
        rcases List.mem_cons.mp h with rfl | h
        · rw [List.mem_cons, not_or]
          exact ⟨fun hdc ↦ hc hdc.symm, ih List.mem_cons_self⟩
        · exact ih (List.mem_cons_of_mem q h)

/-- Before a separator that follows, the first one cuts off the first stretch. -/
theorem exists_cutFirst_append (s t : List Char) : ∃ p ps rest, pieces d s = p :: ps ∧
    cutFirst d (s ++ d :: t) = some (p, rest) := by
  induction s with
  | nil => exact ⟨[], [], t, rfl, by simp [cutFirst]⟩
  | cons c s ih =>
    by_cases hc : c = d
    · exact ⟨[], pieces d s, s ++ d :: t, by simp [pieces, hc], by simp [cutFirst, hc]⟩
    · obtain ⟨p, ps, rest, hp, hcut⟩ := ih
      exact ⟨c :: p, ps, rest, by simp [pieces, hc, hp], by simp [cutFirst, hc, hcut]⟩

/-- What stands behind the last separator is a stretch. -/
theorem mem_pieces_of_cutLast {t u : List Char} (h : cutLast d s = some (t, u)) :
    u ∈ pieces d s := by
  by_cases hd : d ∈ s
  · obtain ⟨t', u', rfl, hu⟩ := exists_eq_append_last hd
    rw [cutLast_cons t' hu] at h
    cases h
    rw [pieces_append, pieces_of_notMem hu]
    exact List.mem_append_right _ List.mem_cons_self
  · rw [cutLast_eq_none hd] at h
    cases h

/-- Joined stretches are cut apart again. -/
theorem pieces_intercalate {ss : List (List Char)} (hne : ss ≠ []) (h : ∀ s ∈ ss, d ∉ s) :
    pieces d ([d].intercalate ss) = ss := by
  match ss with
  | [] => exact absurd rfl hne
  | [s] => simpa [List.intercalate] using pieces_of_notMem (h s List.mem_cons_self)
  | s :: t :: ss =>
    have hs : pieces d s = [s] := pieces_of_notMem (h s List.mem_cons_self)
    have hrest : pieces d ([d].intercalate (t :: ss)) = t :: ss :=
      pieces_intercalate (List.cons_ne_nil t ss) fun u hu ↦ h u (List.mem_cons_of_mem s hu)
    rw [List.intercalate_cons_cons, List.append_assoc, List.singleton_append, pieces_append, hs,
      hrest, List.singleton_append]

/-! ## Arrows -/

/-- The arrow before a key of a path. -/
def arrow : List Char := ['-', '>']

theorem arrowPieces_of_not_infix {s : List Char} (h : ¬arrow <:+: s) : arrowPieces s = [s] := by
  induction s using arrowPieces.induct with
  | case1 => rfl
  | case2 s _ => exact absurd (List.prefix_append arrow s).isInfix h
  | case3 c s _ hpieces _ => exact absurd hpieces (arrowPieces_ne_nil s)
  | case4 c s harrow p ps hpieces ih =>
    have hs : arrowPieces s = [s] := ih fun hs ↦ h (hs.trans (List.suffix_cons c s).isInfix)
    rw [arrowPieces, hs]
    exact harrow

/-- The first stretch is what the text begins with. -/
theorem arrowPieces_headD_prefix (s : List Char) : (arrowPieces s).headD [] <+: s := by
  induction s using arrowPieces.induct with
  | case1 => exact List.nil_prefix
  | case2 s _ => exact List.nil_prefix
  | case3 c s _ hpieces _ => exact absurd hpieces (arrowPieces_ne_nil s)
  | case4 c s harrow p ps hpieces ih =>
    rw [arrowPieces, hpieces]
    · rw [hpieces] at ih
      exact (List.prefix_cons_inj c).mpr ih
    · exact harrow

/-- The first stretch holds no arrow. -/
theorem not_infix_arrowPieces_headD (s : List Char) : ¬arrow <:+: (arrowPieces s).headD [] := by
  induction s using arrowPieces.induct with
  | case1 => decide
  | case2 s _ =>
    change ¬arrow <:+: []
    decide
  | case3 c s _ hpieces _ => exact absurd hpieces (arrowPieces_ne_nil s)
  | case4 c s harrow p ps hpieces ih =>
    have hp : p <+: s := by
      have hprefix := arrowPieces_headD_prefix s
      rwa [hpieces] at hprefix
    rw [hpieces] at ih
    rw [arrowPieces, hpieces]
    · intro hinfix
      rcases List.infix_cons_iff.mp hinfix with hprefix | hinfix
      · obtain ⟨t, ht⟩ := hprefix.trans ((List.prefix_cons_inj c).mpr hp)
        cases ht
        exact harrow t rfl rfl
      · exact ih hinfix
    · exact harrow

/-- The stretches hold the characters of the text, all but those of the arrows. -/
theorem arrowPieces_flatten_sublist (s : List Char) : (arrowPieces s).flatten.Sublist s := by
  fun_induction arrowPieces s with
  | case1 => exact List.nil_sublist []
  | case2 s ih => exact (ih.cons '>').cons '-'
  | case3 c s _ hpieces _ => exact absurd hpieces (arrowPieces_ne_nil s)
  | case4 c s _ p ps hpieces ih =>
    rw [hpieces] at ih
    exact ih.cons_cons c

end RowGate.Text
