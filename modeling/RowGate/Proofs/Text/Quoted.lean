import RowGate.Proofs.Text.Cut
import RowGate.Text.Escape

/-! # Quoted text

Where a quoted text ends and what it holds can be told from the text alone: every character has an
escape of its own, no escape is the beginning of another one, and none begins with a quote. So a
list of quoted texts shows its members.
-/

namespace RowGate.Text

/-! ## Code points -/

/-- Different hexadecimal digits are different characters. -/
theorem digitChar_inj {m n : Nat} (hm : m < 16) (hn : n < 16) (h : m.digitChar = n.digitChar) :
    m = n := by
  have hall : ∀ m < 16, ∀ n < 16, m.digitChar = n.digitChar → m = n := by decide
  exact hall m hm n hn h

theorem digitChar_ne_brace {n : Nat} (hn : n < 16) : n.digitChar ≠ '\x7d' := by
  have hall : ∀ n < 16, n.digitChar ≠ '\x7d' := by decide
  exact hall n hn

/-- Digits and one more character are no single character. -/
theorem toDigits_append_ne_singleton (n : Nat) (c d : Char) : Nat.toDigits 16 n ++ [c] ≠ [d] := by
  intro h
  have hlength := congrArg List.length h
  have hpos := Nat.length_toDigits_pos (b := 16) (n := n)
  rw [List.length_append, List.length_singleton, List.length_singleton] at hlength
  omega

/-- Different numbers have different hexadecimal digits. -/
theorem toDigits_inj {m n : Nat} (h : Nat.toDigits 16 m = Nat.toDigits 16 n) : m = n := by
  induction m using Nat.strongRecOn generalizing n with
  | ind m ih =>
    rw [Nat.toDigits_eq_if (by decide), Nat.toDigits_eq_if (n := n) (by decide)] at h
    split at h
    next hm =>
      split at h
      next hn => exact digitChar_inj hm hn (List.singleton_inj.mp h)
      next => exact absurd h.symm (toDigits_append_ne_singleton _ _ _)
    next hm =>
      split at h
      next => exact absurd h (toDigits_append_ne_singleton _ _ _)
      next =>
        obtain ⟨hrest, hlast⟩ := List.append_inj' h rfl
        have hdiv : m / 16 = n / 16 := ih (m / 16) (by omega) hrest
        have hmod : m % 16 = n % 16 :=
          digitChar_inj (Nat.mod_lt _ (by decide)) (Nat.mod_lt _ (by decide))
            (List.singleton_inj.mp hlast)
        rw [← Nat.div_add_mod m 16, hdiv, hmod, Nat.div_add_mod]

/-- The brace behind a code point is none of its digits. -/
theorem brace_notMem_toDigits (n : Nat) : '\x7d' ∉ Nat.toDigits 16 n := by
  induction n using Nat.strongRecOn with
  | ind n ih =>
    rw [Nat.toDigits_eq_if (by decide)]
    split
    · next hn => exact fun h ↦ digitChar_ne_brace hn (List.mem_singleton.mp h).symm
    · rw [List.mem_append, not_or, List.mem_singleton]
      exact ⟨ih (n / 16) (by omega),
        fun h ↦ digitChar_ne_brace (Nat.mod_lt _ (by decide)) h.symm⟩

/-! ## Characters -/

variable {rule : EscapeRule} {c d : Char} {s t x y : List Char}

/-- A code point ends at its brace, whatever follows it. -/
theorem codePointEscape_append_inj (h : codePointEscape c ++ s = codePointEscape d ++ t) :
    c = d ∧ s = t := by
  simp only [codePointEscape, List.cons_append, List.append_assoc, List.nil_append,
    List.cons.injEq, true_and] at h
  have hcut := congrArg (cutFirst '\x7d') h
  rw [cutFirst_cons (brace_notMem_toDigits _), cutFirst_cons (brace_notMem_toDigits _)] at hcut
  obtain ⟨hdigits, hrest⟩ := Prod.mk.inj (Option.some.inj hcut)
  exact ⟨Char.toNat_inj.mp (toDigits_inj hdigits), hrest⟩

/-- The character that a letter behind a backslash stands for. -/
def ofLetter : Char → Char
  | '0' => '\x00'
  | 't' => '\t'
  | 'r' => '\r'
  | 'n' => '\n'
  | c => c

/-- The three forms of an escape. -/
inductive Escaped : Char → List Char → Prop
  | letter {l : Char} : l ≠ 'u' → Escaped (ofLetter l) ['\\', l]
  | codePoint (c : Char) : Escaped c (codePointEscape c)
  | plain {c : Char} : c ≠ '\\' → c ≠ '"' → Escaped c [c]

/-- Under every rule a character is written in one of the three forms. -/
theorem escaped_escapeChar (rule : EscapeRule) (c : Char) : Escaped c (escapeChar rule c) := by
  unfold escapeChar
  split
  · exact .letter (l := '0') (by decide)
  · exact .letter (l := 't') (by decide)
  · exact .letter (l := 'r') (by decide)
  · exact .letter (l := 'n') (by decide)
  · exact .letter (l := '\\') (by decide)
  · exact .letter (l := '"') (by decide)
  · split
    · exact .letter (l := '\'') (by decide)
    · exact .plain (by decide) (by decide)
  · next hbackslash hquote _ =>
    split
    · exact .codePoint c
    · exact .plain hbackslash hquote

/-- No escape is the beginning of the escape of another character. -/
theorem Escaped.append_inj {u v : List Char} (hu : Escaped c u) (hv : Escaped d v)
    (h : u ++ s = v ++ t) : c = d ∧ s = t := by
  cases hu <;> cases hv
  case codePoint.codePoint => exact codePointEscape_append_inj h
  all_goals
    simp only [codePointEscape, List.cons_append, List.nil_append, List.cons.injEq] at h
    grind

/-- No form of a character begins with the quote that ends a text. -/
theorem Escaped.append_ne_quote {u : List Char} (hu : Escaped c u) (s t : List Char) :
    u ++ s ≠ '"' :: t := by
  cases hu <;> simp_all [codePointEscape]

/-! ## Texts -/

/-- The first quote that is not escaped ends a text, whatever follows it. -/
theorem flatMap_escapeChar_inj
    (h : s.flatMap (escapeChar rule) ++ '"' :: x = t.flatMap (escapeChar rule) ++ '"' :: y) :
    s = t ∧ x = y := by
  induction s generalizing t with
  | nil =>
    cases t with
    | nil => exact ⟨rfl, List.cons_injective h⟩
    | cons d t =>
      rw [List.flatMap_cons, List.append_assoc] at h
      exact absurd h.symm ((escaped_escapeChar rule d).append_ne_quote _ _)
  | cons c s ih =>
    cases t with
    | nil =>
      rw [List.flatMap_cons, List.append_assoc] at h
      exact absurd h ((escaped_escapeChar rule c).append_ne_quote _ _)
    | cons d t =>
      rw [List.flatMap_cons, List.flatMap_cons, List.append_assoc, List.append_assoc] at h
      obtain ⟨rfl, hrest⟩ := (escaped_escapeChar rule c).append_inj (escaped_escapeChar rule d) h
      obtain ⟨rfl, hxy⟩ := ih hrest
      exact ⟨rfl, hxy⟩

/-- A quoted text shows what it holds, whatever comes behind it. -/
theorem quote_append_inj (h : quote s ++ x = quote t ++ y) : s = t ∧ x = y := by
  simp only [quote, List.cons_append, List.append_assoc, List.nil_append, List.cons.injEq,
    true_and] at h
  exact flatMap_escapeChar_inj h

/-- The text of a list is that of its members, with commas between them. -/
theorem toList_quoteList (ss : List String) :
    (quoteList ss).toList =
      '[' :: [',', ' '].intercalate (ss.map fun s ↦ quote s.toList) ++ [']'] := by
  have hquote : (ss.map fun s ↦ String.ofList (quote s.toList)).map String.toList =
      ss.map fun s ↦ quote s.toList := by
    rw [List.map_map]
    exact List.map_congr_left fun _ _ ↦ String.toList_ofList
  rw [quoteList, String.toList_append, String.toList_append, String.toList_intercalate, hquote]
  rfl

/-- Behind a quoted text stands a comma or the end of the list, so equal lists end together. -/
theorem intercalate_quote_inj {ss ts : List String}
    (h : [',', ' '].intercalate (ss.map fun s ↦ quote s.toList) ++ [']'] =
      [',', ' '].intercalate (ts.map fun t ↦ quote t.toList) ++ [']']) : ss = ts := by
  match ss, ts with
  | [], [] => rfl
  | [], [_] | [], _ :: _ :: _ | [_], [] | _ :: _ :: _, [] =>
    simp [quote, List.intercalate_cons_cons] at h
  | [s], [t] =>
    simp only [List.map_cons, List.map_nil, List.intercalate_singleton] at h
    rw [String.toList_inj.mp (quote_append_inj h).1]
  | [s], t :: t' :: ts =>
    simp only [List.map_cons, List.map_nil, List.intercalate_singleton, List.intercalate_cons_cons,
      List.append_assoc] at h
    cases (quote_append_inj h).2
  | s :: s' :: ss, [t] =>
    simp only [List.map_cons, List.map_nil, List.intercalate_singleton, List.intercalate_cons_cons,
      List.append_assoc] at h
    cases (quote_append_inj h).2
  | s :: s' :: ss, t :: t' :: ts =>
    simp only [List.map_cons, List.intercalate_cons_cons, List.append_assoc] at h
    obtain ⟨hst, hrest⟩ := quote_append_inj h
    have ih : s' :: ss = t' :: ts := intercalate_quote_inj (List.append_cancel_left hrest)
    rw [String.toList_inj.mp hst, ih]

/-- A list of quoted texts shows its members. -/
theorem quoteList_inj {ss ts : List String} : quoteList ss = quoteList ts ↔ ss = ts := by
  refine ⟨fun h ↦ ?_, fun h ↦ h ▸ rfl⟩
  rw [← String.toList_inj, toList_quoteList, toList_quoteList] at h
  exact intercalate_quote_inj (List.cons.inj h).2

end RowGate.Text
