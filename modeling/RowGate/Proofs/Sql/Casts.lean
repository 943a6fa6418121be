import RowGate.Proofs.Sql.Independence

/-! # Casts

What the types of columns add to a fragment. A fragment and the same fragment without these types
have the same values, and their texts differ by casts behind placeholders: in the text, which is
woven of placeholders and the stretches between them, and in the tokens that the text is read as.
-/

namespace RowGate

/-! ## Fragments without the types of columns -/

namespace Piece

/-- A piece without the type of a column. -/
@[simp] def untyped : Piece → Piece
  | bound v _ => bound v none
  | p => p

/-- The column type that a bound value is cast to; a vector is cast to its own instead. -/
@[simp] def casts : Piece → List (Option String)
  | bound v type => [if v.isVector then none else type]
  | _ => []

/-- A piece is a bound value, or a text that takes no number and knows no type. -/
theorem bound_or_text (p : Piece) : (∃ v type, p = bound v type) ∨
    p.untyped = p ∧ p.casts = [] ∧ p.width = 0 ∧ ∃ s, ∀ n, p.text n = s := by
  cases p with
  | bound v type => exact .inl ⟨v, type, rfl⟩
  | fixed _ | name _ | key _ | number _ => exact .inr ⟨rfl, rfl, rfl, _, fun _ ↦ rfl⟩

end Piece

namespace Fragment

variable {f g : Fragment}

/-- A fragment without the types of columns. -/
def untyped (f : Fragment) : Fragment := f.map Piece.untyped

/-- The column types that the bound values are cast to, from left to right. -/
def casts (f : Fragment) : List (Option String) := f.flatMap Piece.casts

@[simp] theorem untyped_nil : untyped [] = [] := rfl

@[simp] theorem untyped_cons (p : Piece) (f : Fragment) :
    untyped (p :: f) = p.untyped :: untyped f := rfl

@[simp] theorem untyped_append (f g : Fragment) : untyped (f ++ g) = untyped f ++ untyped g :=
  List.map_append

/-- A fragment without values has no types to leave out. -/
theorem untyped_of_values (h : f.values = []) : f.untyped = f := by
  induction f with
  | nil => rfl
  | cons p f ih => cases p <;> simp_all [values, Piece.untyped]

/-- Types are left out, and no values. -/
theorem values_untyped (f : Fragment) : f.untyped.values = f.values := by
  induction f with
  | nil => rfl
  | cons p f ih => cases p <;> simp [values, Piece.untyped, ih]

/-- Separators have no types. -/
theorem untyped_join (sep : String) (fs : List Fragment) :
    (join sep fs).untyped = join sep (fs.map untyped) := by
  match fs with
  | [] => rfl
  | [f] => simp [join]
  | f :: g :: fs =>
    have ih := untyped_join sep (g :: fs)
    simp only [join, List.map_cons] at ih
    simp [join, List.intercalate_cons_cons, ih, Piece.untyped]

theorem untyped_paren (f : Fragment) : f.paren.untyped = f.untyped.paren := by
  simp [paren, untyped, Piece.untyped]

@[simp] theorem casts_nil : casts [] = [] := rfl

@[simp] theorem casts_cons (p : Piece) (f : Fragment) : casts (p :: f) = p.casts ++ casts f := rfl

@[simp] theorem casts_append (f g : Fragment) : casts (f ++ g) = casts f ++ casts g :=
  List.flatMap_append

/-- There is a cast, or the lack of one, for each value. -/
theorem length_casts (f : Fragment) : f.casts.length = f.values.length := by
  induction f with
  | nil => rfl
  | cons p f ih => cases p <;> simp [values, Piece.casts, ih, Nat.add_comm]

/-- A fragment without values has no casts. -/
theorem casts_of_values (h : f.values = []) : f.casts = [] := by
  rw [← List.length_eq_zero_iff, length_casts, h, List.length_nil]

/-- Separators have no casts. -/
theorem casts_join (sep : String) (fs : List Fragment) :
    (join sep fs).casts = fs.flatMap casts := by
  match fs with
  | [] => rfl
  | [f] => simp [join]
  | f :: g :: fs =>
    have ih := casts_join sep (g :: fs)
    simp only [join] at ih
    simp [join, List.intercalate_cons_cons, ih, Piece.casts]

theorem casts_paren (f : Fragment) : f.paren.casts = f.casts := by
  simp [paren, Piece.casts, casts]

end Fragment

/-! ## The text -/

namespace Sql

/-- Placeholders from `n` on, each with its cast, and the stretches of text behind them. -/
def weave : Nat → List (Option String × String) → String
  | _, [] => ""
  | n, (cast, stretch) :: rest =>
    "$" ++ toString n ++ castText cast ++ stretch ++ weave (n + 1) rest

end Sql

open Sql (castText weave)

/-- A cast to the type of a column stands in front of the cast of a vector, where at most one of the
two is written. -/
theorem placeholder_eq_castText (n : Nat) (v : SqlValue) (type : Option String) :
    placeholder n v type = "$" ++ toString n ++ castText (if v.isVector then none else type) ++
      castText (castType? v none) := by
  rw [placeholder_eq, castType?, castType?]
  cases v.isVector <;> cases type <;> simp [castText, String.append_assoc]

namespace Fragment

/-- A fragment with the types of columns and the fragment without them are woven of the same
stretches. -/
theorem exists_stretches (f : Fragment) : ∃ (first : String) (stretches : List String),
    stretches.length = f.casts.length ∧
    (∀ k, f.textFrom k = first ++ weave (k + 1) (f.casts.zip stretches)) ∧
    ∀ k, f.untyped.textFrom k = first ++ weave (k + 1) (stretches.map (none, ·)) := by
  induction f with
  | nil => exact ⟨"", [], rfl, fun _ ↦ rfl, fun _ ↦ rfl⟩
  | cons p f ih =>
    obtain ⟨first, stretches, hlength, htyped, huntyped⟩ := ih
    rcases p.bound_or_text with ⟨v, type, rfl⟩ | ⟨hp, hcasts, hwidth, s, hs⟩
    · refine ⟨"", (castText (castType? v none) ++ first) :: stretches, ?_, fun k ↦ ?_, fun k ↦ ?_⟩
      · simp [Piece.casts, hlength]
      · simp [textFrom, placeholder_eq_castText, htyped, Piece.casts, weave, String.append_assoc]
      · simp [Piece.untyped, textFrom, placeholder_eq_castText, huntyped, weave, castText,
          String.append_assoc]
    · refine ⟨s ++ first, stretches, by rw [casts_cons, hcasts, hlength, List.nil_append],
        fun k ↦ ?_, fun k ↦ ?_⟩
      · rw [textFrom_cons, hs, hwidth, Nat.add_zero, htyped, casts_cons, hcasts, List.nil_append,
          String.append_assoc]
      · rw [untyped_cons, hp, textFrom_cons, hs, hwidth, Nat.add_zero, huntyped,
          String.append_assoc]

end Fragment

/-! ## The tokens -/

namespace Sql

/-- The tokens with the given casts behind the placeholders. -/
def annotate : List (Option String) → List Token → List Token
  | _, [] => []
  | casts, tok :: ts =>
    if tok.placeholder?.isSome then tok :: castTokens casts.head?.join ++ annotate casts.tail ts
    else tok :: annotate casts ts

/-- Tokens that are no placeholders stay as they are. -/
theorem annotate_append {ts : List Token} (h : placeholders ts = []) (casts : List (Option String))
    (us : List Token) : annotate casts (ts ++ us) = ts ++ annotate casts us := by
  induction ts with
  | nil => rfl
  | cons tok ts ih =>
    rw [placeholders, List.filterMap_eq_nil_iff, List.forall_mem_cons] at h
    rw [List.cons_append, annotate, h.1, if_neg (by simp),
      ih (List.filterMap_eq_nil_iff.mpr h.2), List.cons_append]

end Sql

open Sql (annotate)

/-- A vector is cast to its own type whether or not its column has one. -/
theorem castTokens_castType (v : SqlValue) (type : Option String) :
    castTokens (castType? v type) = castTokens (if v.isVector then none else type) ++
      castTokens (castType? v none) := by
  rw [castType?, castType?]
  cases v.isVector <;> simp [castTokens]

namespace Fragment

/-- The tokens of a fragment are those without the types of columns, with casts behind the
placeholders. -/
theorem tokens_eq_annotate {V : Vocabulary} {f : Fragment} (h : ∀ p ∈ f, V.Has p) (k : Nat) :
    f.tokens k = annotate f.casts (f.untyped.tokens k) := by
  induction f generalizing k with
  | nil => rfl
  | cons p f ih =>
    obtain ⟨hp, hf⟩ := List.forall_mem_cons.mp h
    rcases p.bound_or_text with ⟨v, type, rfl⟩ | ⟨hself, hcasts, hwidth, -⟩
    · have hnone : V.Has (.bound v none) := fun _ h ↦ nomatch h
      have hvector := Sql.annotate_append (placeholders_castTokens fun _ ht ↦
        Vocabulary.isTypeName_castType hnone ht)
      simp only [tokens, ih hf, Piece.tokens, castTokens_castType v type, untyped_cons,
        Piece.untyped, casts_cons, Piece.casts, List.cons_append, annotate, Sql.Token.placeholder?,
        Option.isSome_some, if_true, hvector]
      simp [Piece.width]
    · have hplain : Sql.placeholders (p.tokens (k + 1)) = [] := by
        rw [Vocabulary.placeholders_piece hp, hwidth]
        rfl
      rw [tokens, ih hf, untyped_cons, hself, tokens, casts_cons, hcasts, List.nil_append,
        Sql.annotate_append hplain]

end Fragment

/-! ## Statements -/

/-- A statement is another one with casts behind its placeholders: the values are the same, and so
is everything else in the text. -/
structure Statement.Annotates (casts : List (Option String)) (typed plain : Statement) : Prop where
  params : typed.params = plain.params
  count : casts.length = plain.params.length
  text : ∃ (first : String) (stretches : List String), stretches.length = casts.length ∧
    plain.sql = first ++ weave 1 (stretches.map (none, ·)) ∧
    typed.sql = first ++ weave 1 (casts.zip stretches)
  tokens : ∃ ts, Sql.tokens plain.sql = some ts ∧ Sql.tokens typed.sql = some (annotate casts ts)

/-- A fragment that is read in both forms differs from the one without types by its casts only. -/
theorem Statement.Annotates.of_fits {V W : Vocabulary} {p q : Sql.Place} {f : Fragment}
    (hf : Fits V .free p f) (hplain : Fits W .free q f.untyped) :
    f.statement.Annotates f.casts f.untyped.statement := by
  obtain ⟨first, stretches, hlength, htyped, huntyped⟩ := f.exists_stretches
  refine ⟨f.values_untyped.symm, ?_, ⟨first, stretches, hlength, huntyped 0, htyped 0⟩,
    f.untyped.tokens 0, hplain.tokens_textFrom 0, ?_⟩
  · rw [Fragment.length_casts, Fragment.statement, Fragment.values_untyped]
  · rw [← Fragment.tokens_eq_annotate hf.has]
    exact hf.tokens_textFrom 0

end RowGate
