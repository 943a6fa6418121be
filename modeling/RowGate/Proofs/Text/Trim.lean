import Mathlib.Data.List.DropRight
import RowGate.Text.Blank

/-! # Trimming

A text is its trimmed middle between two stretches of blanks, and blanks put on either side of it
are trimmed again.
-/

namespace RowGate.Text

/-- Blanks and nothing else. -/
def AllBlank (s : List Char) : Prop := ∀ c ∈ s, isBlank c = true

theorem trimEnd_eq_rdropWhile (s : List Char) : trimEnd s = s.rdropWhile isBlank := rfl

theorem trim_append_left {a : List Char} (ha : AllBlank a) (s : List Char) :
    trim (a ++ s) = trim s := by
  rw [trim, trim, trimStart, trimStart, List.dropWhile_append_of_pos ha]

theorem trimStart_eq_nil {a : List Char} (ha : AllBlank a) : trimStart a = [] :=
  List.dropWhile_eq_nil_iff.mpr ha

theorem trimEnd_append {b : List Char} (hb : AllBlank b) (s : List Char) :
    trimEnd (s ++ b) = trimEnd s := by
  have hb' : ∀ c ∈ b.reverse, isBlank c = true := fun c hc ↦ hb c (List.mem_reverse.mp hc)
  rw [trimEnd, trimEnd, List.reverse_append, List.dropWhile_append_of_pos hb']

theorem trim_append_right {b : List Char} (hb : AllBlank b) (s : List Char) :
    trim (s ++ b) = trim s := by
  rw [trim, trim, trimStart, trimStart, List.dropWhile_append]
  split
  · next h =>
    have hs : s.dropWhile isBlank = [] := List.isEmpty_iff.mp h
    have hb' : b.dropWhile isBlank = [] := trimStart_eq_nil hb
    rw [hs, hb']
  · exact trimEnd_append hb _

/-- Every text is its trimmed form between blanks. -/
theorem exists_append_trim (s : List Char) :
    ∃ a b, AllBlank a ∧ AllBlank b ∧ s = a ++ trim s ++ b := by
  refine ⟨s.takeWhile isBlank, (trimStart s).rtakeWhile isBlank, ?_, ?_, ?_⟩
  · intro c hc
    exact List.mem_takeWhile_imp hc
  · intro c hc
    exact List.mem_rtakeWhile_imp hc
  · have h : trim s ++ (trimStart s).rtakeWhile isBlank = trimStart s := by
      rw [trim, trimEnd_eq_rdropWhile, List.rdropWhile_append_rtakeWhile]
    rw [List.append_assoc, h, trimStart, List.takeWhile_append_dropWhile]

theorem trim_trim (s : List Char) : trim (trim s) = trim s := by
  obtain ⟨a, b, ha, hb, hs⟩ := exists_append_trim s
  have h := congrArg trim hs
  rwa [trim_append_right hb, trim_append_left ha, eq_comm] at h

theorem isInfix_trim (s : List Char) : trim s <:+: s := by
  obtain ⟨a, b, -, -, hs⟩ := exists_append_trim s
  exact ⟨a, b, hs.symm⟩

/-- A text whose blanks all stand in its trimmed form is trimmed already. -/
theorem trim_eq_self_of_countP_le (h : s.countP isBlank ≤ (trim s).countP isBlank) :
    trim s = s := by
  obtain ⟨a, b, ha, hb, hs⟩ := exists_append_trim s
  have hcount : s.countP isBlank = a.length + (trim s).countP isBlank + b.length := by
    conv_lhs => rw [hs]
    rw [List.countP_append, List.countP_append, List.countP_eq_length.mpr ha,
      List.countP_eq_length.mpr hb]
  have ha' : a = [] := List.length_eq_zero_iff.mp (by omega)
  have hb' : b = [] := List.length_eq_zero_iff.mp (by omega)
  rw [ha', hb', List.nil_append, List.append_nil] at hs
  exact hs.symm

/-- A text that neither begins nor ends with a blank is trimmed already. -/
theorem trim_eq_self {s : List Char} (hfirst : ∀ c ∈ s.head?, isBlank c = false)
    (hlast : ∀ c ∈ s.getLast?, isBlank c = false) : trim s = s := by
  have hs : trimStart s = s := by
    cases s with
    | nil => rfl
    | cons c s => simp [trimStart, hfirst c rfl]
  rw [trim, hs, trimEnd_eq_rdropWhile, List.rdropWhile_eq_self_iff]
  intro hne h
  rw [hlast _ (List.getLast?_eq_some_getLast hne)] at h
  cases h

/-- A trimmed text begins with no blank. -/
theorem head_of_trim_eq {s : List Char} (h : trim s = s) : ∀ c ∈ s.head?, isBlank c = false := by
  intro c hc
  obtain ⟨t, rfl⟩ := List.head?_eq_some_iff.mp hc
  by_contra hblank
  have hall : AllBlank [c] := List.forall_mem_singleton.mpr (Bool.not_eq_false _ ▸ hblank)
  have htrim : trim (c :: t) = trim t := trim_append_left hall t
  have hshort := length_trim_le t
  rw [← htrim, h, List.length_cons] at hshort
  omega

/-- A trimmed text ends with no blank. -/
theorem getLast_of_trim_eq {s : List Char} (h : trim s = s) :
    ∀ c ∈ s.getLast?, isBlank c = false := by
  intro c hc
  obtain ⟨t, rfl⟩ := List.getLast?_eq_some_iff.mp hc
  by_contra hblank
  have hall : AllBlank [c] := List.forall_mem_singleton.mpr (Bool.not_eq_false _ ▸ hblank)
  have htrim : trim (t ++ [c]) = trim t := trim_append_right hall t
  have hshort := length_trim_le t
  rw [← htrim, h, List.length_append, List.length_singleton] at hshort
  omega

/-- Two characters that are not blank keep what they enclose. -/
theorem trim_cons_append {l r : Char} (hl : isBlank l = false) (hr : isBlank r = false)
    (s : List Char) : trim (l :: s ++ [r]) = l :: s ++ [r] := by
  refine trim_eq_self (fun c hc ↦ ?_) fun c hc ↦ ?_
  · cases hc
    exact hl
  · rw [List.getLast?_append, Option.mem_def] at hc
    cases hc
    exact hr

theorem isBlankText_iff {s : List Char} : isBlankText s = true ↔ trim s = [] := by
  rw [isBlankText, List.isEmpty_iff]

/-- One character that is not blank is enough. -/
theorem isBlankText_eq_false {s : List Char} {c : Char} (hc : c ∈ s) (h : isBlank c = false) :
    isBlankText s = false := by
  obtain ⟨a, b, ha, hb, hs⟩ := exists_append_trim s
  refine Bool.eq_false_iff.mpr fun hblank ↦ ?_
  rw [isBlankText_iff.mp hblank, List.append_nil] at hs
  have hall : isBlank c = true := by
    rw [hs] at hc
    exact (List.mem_append.mp hc).elim (ha c) (hb c)
  rw [h] at hall
  cases hall

/-! ## What is dropped at both ends -/

variable {p : Char → Bool} {c : Char} {s t : List Char}

/-- What is dropped at one end of a text does not hang on what is dropped at the other. -/
theorem dropWhile_rdropWhile (p q : Char → Bool) (s : List Char) :
    (s.rdropWhile q).dropWhile p = (s.dropWhile p).rdropWhile q := by
  induction s using List.reverseRecOn with
  | nil => rfl
  | append_singleton s d ih =>
    rw [List.rdropWhile_concat, List.dropWhile_append]
    cases hd : q d with
    | true =>
      rw [if_pos rfl, ih]
      split
      · next hs =>
        rw [List.isEmpty_iff.mp hs, List.dropWhile_cons]
        split <;> simp [hd]
      · rw [List.rdropWhile_concat_pos _ _ _ hd]
    | false =>
      rw [if_neg Bool.false_ne_true, List.dropWhile_append]
      split
      · rw [List.dropWhile_cons]
        split
        · rfl
        · rw [List.rdropWhile_singleton, hd, if_neg Bool.false_ne_true]
      · rw [List.rdropWhile_concat_neg _ _ _ (by simp [hd])]

/-- A text that begins with a character to keep stays behind what is dropped before it. -/
theorem dropWhile_append_of_head? (hc : p c = false) (ht : t.head? = some c) (s : List Char) :
    (s ++ t).dropWhile p = s.dropWhile p ++ t := by
  obtain ⟨t, rfl⟩ := List.head?_eq_some_iff.mp ht
  rw [List.dropWhile_append]
  split
  · next hs => simp [List.isEmpty_iff.mp hs, hc]
  · rfl

theorem rdropWhile_append_of_getLast? (hc : p c = false) (hs : s.getLast? = some c)
    (t : List Char) : (s ++ t).rdropWhile p = s ++ t.rdropWhile p := by
  have hreverse : s.reverse.head? = some c := by rw [List.head?_reverse, hs]
  rw [List.rdropWhile, List.reverse_append, dropWhile_append_of_head? hc hreverse,
    List.reverse_append, List.reverse_reverse, List.rdropWhile]

/-- Of what is dropped at the end, a first character that is kept does not notice. -/
theorem head?_rdropWhile (hc : p c = false) (s : List Char) :
    (s.rdropWhile p).head? = some c ↔ s.head? = some c := by
  obtain ⟨t, ht⟩ := s.rdropWhile_prefix p
  constructor
  · intro h
    rw [← ht, List.head?_append, h, Option.some_or]
  · intro h
    obtain ⟨u, rfl⟩ := List.head?_eq_some_iff.mp h
    rw [← List.singleton_append, rdropWhile_append_of_getLast? hc rfl]
    rfl

theorem getLast?_dropWhile (hc : p c = false) (s : List Char) :
    (s.dropWhile p).getLast? = some c ↔ s.getLast? = some c := by
  have h := head?_rdropWhile hc s.reverse
  rwa [List.rdropWhile_reverse, List.head?_reverse, List.head?_reverse] at h

/-- A part of a text, trimmed, is a part of the trimmed text. -/
theorem trim_infix_trim (h : s <:+: t) : trim s <:+: trim t := by
  obtain ⟨u, v, rfl⟩ := (isInfix_trim s).trans h
  have hself : trim (trim s) = trim s := trim_trim s
  generalize trim s = w at hself
  rcases hw : w.head? with _ | c
  · rw [List.head?_eq_none_iff.mp hw]
    exact List.nil_infix
  · have hne : w ≠ [] := by
      rintro rfl
      cases hw
    have hc : isBlank c = false := head_of_trim_eq hself c hw
    have hlast : w.getLast? = some (w.getLast hne) := List.getLast?_eq_some_getLast hne
    have he : isBlank (w.getLast hne) = false := getLast_of_trim_eq hself _ hlast
    have hhead : (w ++ v).head? = some c := by rw [List.head?_append, hw, Option.some_or]
    have hstart : trimStart (u ++ w ++ v) = trimStart u ++ (w ++ v) := by
      rw [List.append_assoc]
      exact dropWhile_append_of_head? hc hhead u
    have htail : (trimStart u ++ w).getLast? = some (w.getLast hne) := by
      rw [List.getLast?_append, hlast, Option.some_or]
    rw [trim, hstart, ← List.append_assoc, trimEnd_eq_rdropWhile,
      rdropWhile_append_of_getLast? he htail]
    exact ⟨_, _, rfl⟩

end RowGate.Text
