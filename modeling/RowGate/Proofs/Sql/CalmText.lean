import RowGate.Proofs.Sql.Casts
import RowGate.Proofs.Sql.TypeName

/-! # Texts that casts may be added to

The text of a column's type goes into a fragment as it is. It closes the parentheses that it opens,
so a cast to it ends within it as long as a term ends behind it. A fragment is calm if this is so
behind each of its bound values. Main statement: calm text keeps all its tokens when the types of
columns are added to it, and it keeps just these exactly if each of them is the name of a type.
-/

namespace RowGate

open Sql (EndsTerm EndsWord Nested Token annotate castMark namesType openBounds textTokens
  typeLength? uncast)

/-! ## The text of a type -/

namespace Sql

/-- The tokens that are read from where a scan stands. -/
def tokensFrom (m : Mode) (s : List Char) : List Token := (scan m s).1 ++ (scan m s).2.pending

/-- The tokens of a text are those that its first character ends, and those behind it. -/
theorem tokensFrom_cons (m : Mode) (c : Char) (s : List Char) :
    tokensFrom m (c :: s) = (step m c).1 ++ tokensFrom (step m c).2 s := by
  rw [tokensFrom, scan]
  exact List.append_assoc ..

/-- A parenthesis or a bracket is a token of its own. -/
theorem step_mark {m : Mode} (hm : m.isPlain = true) {c : Char} (hc : c ∈ ['(', ')', '[', ']']) :
    step m c = (m.pending ++ [.mark c], .free) := by
  obtain ⟨hword, hnumber, hstart⟩ : Lexeme.word.goesOn c = false ∧
      Lexeme.number.goesOn c = false ∧ start c = ([.mark c], .free) := by
    simp only [List.mem_cons, List.not_mem_nil, or_false] at hc
    rcases hc with rfl | rfl | rfl | rfl <;> exact ⟨rfl, rfl, rfl⟩
  have hjoins : m.joins c = false := by
    cases m with
    | free => rfl
    | reading k s =>
      cases k with
      | word => exact hword
      | number => exact hnumber
      | placeholder | operator | colons => cases hm
    | inside | closing => cases hm
  rw [step_of_joins_eq_false hjoins, hstart]

/-- A token at hand that is plain is no parenthesis. -/
theorem nested_pending {m : Mode} (hm : m.isPlain = true) : Nested m.pending := by
  refine .of_forall fun tok htok ↦ ?_
  cases m with
  | free => cases htok
  | reading k s =>
    obtain rfl := List.mem_singleton.mp htok
    exact ⟨(nomatch ·), (nomatch ·)⟩
  | inside | closing => cases hm

/-- No other character is read as a parenthesis. -/
theorem nested_step {m : Mode} (hm : m.isPlain = true) {c : Char} (hopen : c ≠ '(')
    (hclose : c ≠ ')') : Nested (step m c).1 := by
  have hstart : Nested (start c).1 := by
    rw [start]
    split
    · exact .nil
    · split
      · exact .nil
      · split
        · exact .nil
        · exact .token (by simpa using hopen) (by simpa using hclose)
  rw [step]
  split
  · exact .nil
  · exact (nested_pending hm).append hstart

/-- In the text of a type parentheses match. Where one is open, the text closes it. -/
theorem nested_tokensFrom {s : List Char} {m : Mode} (hm : m.isPlain = true) :
    (ColumnInfo.isTypeText false s = true → Nested (tokensFrom m s)) ∧
    (ColumnInfo.isTypeText true s = true →
      ∃ a b, tokensFrom m s = a ++ .mark ')' :: b ∧ Nested a ∧ Nested b) := by
  -- Each parenthesis leads from one of the two statements to the other, so both go together.
  induction s generalizing m with
  | nil => exact ⟨fun _ ↦ nested_pending hm, (nomatch ·)⟩
  | cons c s ih =>
    have hnext {opened : Bool} (h : ColumnInfo.isTypeText opened (c :: s) = true) :
        (step m c).2.isPlain = true :=
      (isPlain_step hm (Target.isTypeChar_of_isTypeText h c List.mem_cons_self)).2
    rw [tokensFrom_cons]
    constructor
    · intro h
      have ih := ih (hnext h)
      rw [ColumnInfo.isTypeText] at h
      split at h
      next hopen =>
        obtain ⟨a, b, htokens, ha, hb⟩ := ih.2 h
        rw [htokens, step_mark hm (by simp [hopen]), hopen]
        have hparen := (nested_pending hm).append (ha.paren.append hb)
        simpa using hparen
      next hopen =>
        obtain ⟨hc, h⟩ := (Bool.and_eq_true ..).mp h
        have hclose : c ≠ ')' := by
          rintro rfl
          cases hc
        exact (nested_step hm hopen hclose).append (ih.1 h)
    · intro h
      have ih := ih (hnext h)
      rw [ColumnInfo.isTypeText] at h
      split at h
      next hclose =>
        refine ⟨m.pending, _, ?_, nested_pending hm, ih.1 h⟩
        rw [step_mark hm (by simp [hclose]), hclose]
        simp
      next hclose =>
        obtain ⟨hc, h⟩ := (Bool.and_eq_true ..).mp h
        have hopen : c ≠ '(' := by
          rintro rfl
          cases hc
        obtain ⟨a, b, htokens, ha, hb⟩ := ih.2 h
        rw [htokens, ← List.append_assoc]
        exact ⟨_, b, rfl, (nested_step hm hopen hclose).append ha, hb⟩

/-- The text of a type closes the parentheses that it opens, and it casts nothing itself. -/
theorem nested_of_isTypeText {t : List Char} (h : ColumnInfo.isTypeText false t = true) :
    Nested (textTokens t) ∧ castMark ∉ textTokens t := by
  refine ⟨(nested_tokensFrom rfl).1 h, fun hmark ↦ ?_⟩
  obtain ⟨hscan, hpending⟩ :=
    isPlain_scan (m := .free) rfl (Target.isTypeChar_of_isTypeText h)
  have hplain : castMark.isPlain = true := by
    rcases List.mem_append.mp hmark with hmark | hmark
    · exact hscan _ hmark
    · exact Mode.isPlain_pending hpending _ hmark
  cases hplain

/-- The type of an array of a type. -/
theorem textTokens_array {t : List Char} (h : ColumnInfo.isTypeText false t = true) :
    textTokens (t ++ "[]".toList) = textTokens t ++ openBounds := by
  obtain ⟨-, hplain⟩ := isPlain_scan (m := .free) rfl (Target.isTypeChar_of_isTypeText h)
  have hopen := step_mark hplain (c := '[') (by simp)
  have hclose := step_mark (m := .free) rfl (c := ']') (by simp)
  have hbrackets : "[]".toList = ['[', ']'] := by decide
  rw [textTokens, scan_append, hbrackets, scan, hopen, scan, hclose, scan, textTokens, openBounds]
  simp [Mode.pending]

end Sql

/-- What a column is cast to has passed the check of its text. -/
theorem ColumnInfo.isTypeText_of_castType {c : ColumnInfo} {type : String}
    (h : c.castType? = some type) : isTypeText false type.toList = true := by
  rw [castType?] at h
  split at h
  · cases h
  · split at h
    next htext =>
      cases h
      rwa [String.toList_ofList]
    next => cases h

/-- The text of an array of a type is the text of a type. -/
theorem ColumnInfo.isTypeText_array {s : List Char} {opened : Bool}
    (h : isTypeText opened s = true) : isTypeText opened (s ++ "[]".toList) = true := by
  induction s generalizing opened with
  | nil => cases opened with
    | false => rfl
    | true => cases h
  | cons c s ih =>
    cases opened
    all_goals
      rw [List.cons_append, isTypeText]
      rw [isTypeText] at h
      split at h
      next hc => rw [if_pos hc, ih h]
      next hc =>
        obtain ⟨hc', h⟩ := (Bool.and_eq_true ..).mp h
        rw [if_neg hc, hc', ih h]
        rfl

/-! ## Calm tokens -/

namespace Sql

/-- Tokens to which casts may be added behind the placeholders: where a type of a column comes in, a
term ends, and a type of the compiler's own is one word. -/
inductive Calm : List (Option String) → List Token → Prop
  | nil : Calm [] []
  | token {tok : Token} {casts : List (Option String)} {ts : List Token} : tok ≠ castMark →
    tok.placeholder? = none → Calm casts ts → Calm casts (tok :: ts)
  | own {s : List Char} {casts : List (Option String)} {ts : List Token} :
    String.ofList (Text.lower s) ∈ castTypes → EndsWord ts → Calm casts ts →
    Calm casts (castMark :: .lexeme .word s :: ts)
  | untyped {s : List Char} {casts : List (Option String)} {ts : List Token} : Calm casts ts →
    Calm (none :: casts) (.lexeme .placeholder s :: ts)
  | typed {s : List Char} {type : String} {casts : List (Option String)} {ts : List Token} :
    ColumnInfo.isTypeText false type.toList = true → EndsTerm ts → Calm casts ts →
    Calm (some type :: casts) (.lexeme .placeholder s :: ts)

variable {casts casts' : List (Option String)} {ts us : List Token}

/-- Casts are added behind tokens, so they change nothing in front. -/
theorem head?_annotate (casts : List (Option String)) (ts : List Token) :
    (annotate casts ts).head? = ts.head? := by
  cases ts with
  | nil => rw [annotate]
  | cons tok ts =>
    rw [annotate]
    split <;> rfl

/-- What a text is without its casts, and another text with more casts in it: the other one is no
shorter, and it is the same exactly if a condition holds. -/
def Keeps (good : Prop) (plain typed : Option (List Token)) : Prop :=
  ∃ us, plain = some us ∧ (∀ vs, typed = some vs → us.length ≤ vs.length) ∧
    (typed = some us ↔ good)

variable {good : Prop} {plain typed : Option (List Token)}

/-- A token in front of both texts changes nothing. -/
theorem Keeps.cons (h : Keeps good plain typed) (tok : Token) :
    Keeps good (plain.map (tok :: ·)) (typed.map (tok :: ·)) := by
  obtain ⟨us, rfl, hlength, hiff⟩ := h
  refine ⟨tok :: us, rfl, ?_, ?_⟩
  · intro vs hvs
    obtain ⟨vs, htyped, rfl⟩ := Option.map_eq_some_iff.mp hvs
    exact Nat.succ_le_succ (hlength vs htyped)
  · rw [← hiff, Option.map_eq_some_iff]
    constructor
    · rintro ⟨vs, htyped, hvs⟩
      rw [htyped, (List.cons.inj hvs).2]
    · exact fun htyped ↦ ⟨us, htyped, rfl⟩

/-- A cast to more than the name of a type leaves the rest of its text. -/
theorem Keeps.cast (h : Keeps good plain typed) (type : List Token) :
    Keeps (namesType type = true ∧ good) plain
      ((typeLength? type).bind fun n ↦ typed.map (type.drop n ++ ·)) := by
  obtain ⟨us, rfl, hlength, hiff⟩ := h
  refine ⟨us, rfl, ?_, ?_⟩
  · intro vs hvs
    obtain ⟨n, -, hvs⟩ := Option.bind_eq_some_iff.mp hvs
    obtain ⟨vs, htyped, rfl⟩ := Option.map_eq_some_iff.mp hvs
    rw [List.length_append]
    exact Nat.le_add_left_of_le (hlength vs htyped)
  · rw [namesType_iff_typeLength, ← hiff]
    constructor
    · intro h
      obtain ⟨n, hn, h⟩ := Option.bind_eq_some_iff.mp h
      obtain ⟨vs, htyped, hvs⟩ := Option.map_eq_some_iff.mp h
      -- What follows is no shorter than without the casts, so nothing of the type may be left.
      have hle := hlength vs htyped
      have hn' := (typeLength?_eq_some_iff.mp hn).1.1
      have hlengths := congrArg List.length hvs
      rw [List.length_append, List.length_drop] at hlengths
      obtain rfl : n = type.length := by omega
      rw [List.drop_length, List.nil_append] at hvs
      exact ⟨hn, hvs ▸ htyped⟩
    · rintro ⟨hn, rfl⟩
      rw [hn, Option.bind_some, Option.map_some, List.drop_length, List.nil_append]

/-- Without its casts calm text has at least the tokens that it has without casts at all, and just
these exactly if each cast is to the name of a type. -/
theorem Calm.keeps (h : Calm casts ts) :
    Keeps (∀ type, some type ∈ casts → namesType (textTokens type.toList) = true) (uncast ts)
      (uncast (annotate casts ts)) := by
  induction h with
  | nil => exact ⟨[], rfl, fun _ _ ↦ Nat.zero_le _, by simp [annotate, uncast, uncastFrom]⟩
  | @token tok casts ts hmark hplaceholder _ ih =>
    have hannotate : annotate casts (tok :: ts) = tok :: annotate casts ts := by
      rw [annotate, hplaceholder]
      rfl
    rw [hannotate, uncast_cons hmark, uncast_cons hmark]
    exact ih.cons tok
  | @own s casts ts hs hends _ ih =>
    have hannotate : annotate casts (castMark :: .lexeme .word s :: ts) =
        castMark :: .lexeme .word s :: annotate casts ts := rfl
    have hends' : EndsWord (annotate casts ts) := by
      rw [EndsWord, head?_annotate]
      exact hends
    rw [hannotate, uncast_castMark, uncast_castMark, typeLength?_word hs hends,
      typeLength?_word hs hends']
    exact ih
  | @untyped s casts ts _ ih =>
    have hmark : Token.lexeme .placeholder s ≠ castMark := by simp [castMark]
    have hannotate : annotate (none :: casts) (.lexeme .placeholder s :: ts) =
        .lexeme .placeholder s :: annotate casts ts := rfl
    rw [hannotate, uncast_cons hmark, uncast_cons hmark]
    simpa using ih.cons (.lexeme .placeholder s)
  | @typed s type casts ts htype hends _ ih =>
    have hmark : Token.lexeme .placeholder s ≠ castMark := by simp [castMark]
    have hannotate : annotate (some type :: casts) (.lexeme .placeholder s :: ts) =
        .lexeme .placeholder s :: castMark :: (textTokens type.toList ++ annotate casts ts) := rfl
    have hends' : EndsTerm (annotate casts ts) := by
      rw [EndsTerm, head?_annotate]
      exact hends
    obtain ⟨hnested, hcast⟩ := nested_of_isTypeText htype
    rw [hannotate, uncast_cons hmark, uncast_cons hmark, uncast_cast hnested hcast hends']
    simpa [forall_eq_or_imp] using (ih.cast (textTokens type.toList)).cons (.lexeme .placeholder s)

/-! ### Calm tokens in a row -/

/-- No cast and no placeholder. -/
def Token.isBare (tok : Token) : Bool := tok ≠ castMark && tok.placeholder?.isNone

/-- Casts may be added behind tokens that have none. -/
theorem Calm.behind {a : List Token} (ha : ∀ tok ∈ a, tok.isBare = true) (h : Calm casts ts) :
    Calm casts (a ++ ts) := by
  induction a with
  | nil => exact h
  | cons tok a ih =>
    obtain ⟨htok, ha⟩ := List.forall_mem_cons.mp ha
    simp only [Token.isBare, Bool.and_eq_true, decide_eq_true_eq, Option.isNone_iff_eq_none] at htok
    exact .token htok.1 htok.2 (ih ha)

/-- What ends a word goes on ending it, whatever follows. -/
theorem EndsWord.append (hts : EndsWord ts) (hus : EndsWord us) : EndsWord (ts ++ us) := by
  cases ts with
  | nil => exact hus
  | cons tok ts => exact hts

/-- What ends a term goes on ending it, whatever follows. -/
theorem EndsTerm.append (hts : EndsTerm ts) (hus : EndsTerm us) : EndsTerm (ts ++ us) := by
  cases ts with
  | nil => exact hus
  | cons tok ts => exact hts

/-- Casts may be added to two texts if the second ends the terms of the first. -/
theorem Calm.append (h : Calm casts ts) (h' : Calm casts' us) (hends : EndsTerm us) :
    Calm (casts ++ casts') (ts ++ us) := by
  induction h with
  | nil => exact h'
  | token hmark hplaceholder _ ih => exact .token hmark hplaceholder ih
  | own hs hword _ ih => exact .own hs (hword.append hends.endsWord) ih
  | untyped _ ih => exact .untyped ih
  | typed htype hterm _ ih => exact .typed htype (hterm.append hends) ih

end Sql

/-! ## Calm fragments -/

open Sql (Calm)

/-- No bound value, and no cast in the text. -/
def Piece.isBare : Piece → Bool
  | fixed s => (textTokens s.toList).all Token.isBare
  | name _ | key _ | number _ => true
  | bound _ _ => false

namespace Fragment

variable {f g : Fragment}

/-- Wherever a fragment stands, the types of columns may be added to its tokens. -/
def IsCalm (f : Fragment) : Prop := ∀ k, Calm f.casts (f.untyped.tokens k)

/-- Pieces that bind nothing have no values. -/
theorem values_of_isBare (h : ∀ p ∈ f, p.isBare = true) : f.values = [] := by
  induction f with
  | nil => rfl
  | cons p f ih =>
    obtain ⟨hp, hf⟩ := List.forall_mem_cons.mp h
    cases p with
    | bound _ _ => cases hp
    | fixed _ | name _ | key _ | number _ => exact ih hf

/-- Pieces that bind and cast nothing have tokens that are no placeholders and no casts. -/
theorem isBare_tokens (h : ∀ p ∈ f, p.isBare = true) (k : Nat) :
    ∀ tok ∈ f.tokens k, tok.isBare = true := by
  induction f generalizing k with
  | nil => exact List.forall_mem_nil _
  | cons p f ih =>
    obtain ⟨hp, hf⟩ := List.forall_mem_cons.mp h
    refine List.forall_mem_append.mpr ⟨?_, ih hf _⟩
    cases p with
    | fixed s => exact List.all_eq_true.mp hp
    | bound _ _ => cases hp
    | name _ | key _ | number _ => simp [Piece.tokens, Token.isBare, castMark, Token.placeholder?]

namespace IsCalm

/-- A calm fragment behind one that binds and casts nothing. -/
theorem behind (hf : ∀ p ∈ f, p.isBare = true) (hg : g.IsCalm) : (f ++ g).IsCalm := by
  intro k
  have hvalues := values_of_isBare hf
  rw [casts_append, casts_of_values hvalues, untyped_append, untyped_of_values hvalues,
    tokens_append]
  exact (hg _).behind (isBare_tokens hf k)

/-- A calm fragment behind another one, whose terms it ends. -/
theorem append (hf : f.IsCalm) (hg : g.IsCalm) (hends : ∀ k, EndsTerm (g.untyped.tokens k)) :
    (f ++ g).IsCalm := by
  intro k
  rw [casts_append, untyped_append, tokens_append]
  exact (hf k).append (hg _) (hends _)

theorem nil : IsCalm [] := fun _ ↦ .nil

theorem endsTerm_nil : EndsTerm [] := fun _ h ↦ nomatch h

/-- A value may be cast to a type that has passed the check, as nothing goes on behind it. -/
theorem bound (v : SqlValue) {type : Option String}
    (htype : ∀ t ∈ type, ColumnInfo.isTypeText false t.toList = true) :
    IsCalm [.bound v type] := by
  intro k
  have htokens : untyped [.bound v type] = [.bound v none] := rfl
  rw [htokens, tokens, tokens, List.append_nil, Piece.tokens, castType?, casts_cons, casts_nil,
    List.append_nil, Piece.casts]
  cases v.isVector with
  | true =>
    have hvector : castTokens (some "vector") = [castMark, .lexeme .word "vector".toList] := by
      decide +kernel
    rw [if_pos rfl, if_pos rfl, hvector]
    exact .untyped (.own (by decide) endsTerm_nil.endsWord .nil)
  | false =>
    rw [if_neg Bool.false_ne_true, if_neg Bool.false_ne_true]
    cases type with
    | none => exact .untyped .nil
    | some t => exact .typed (htype t rfl) endsTerm_nil .nil

theorem bound_untyped (v : SqlValue) : IsCalm [.bound v none] :=
  bound v fun t ht ↦ absurd ht (Option.not_mem_none t)

/-- Behind a cast to a number the text may go on with an operator. -/
theorem numeric (hg : g.IsCalm) (hends : ∀ k, EndsWord (g.untyped.tokens k)) :
    IsCalm (.fixed "::numeric" :: g) := by
  intro k
  have htokens : textTokens "::numeric".toList = [castMark, .lexeme .word "numeric".toList] := by
    decide +kernel
  have hcalm : Calm g.casts (castMark :: .lexeme .word "numeric".toList :: g.untyped.tokens k) :=
    .own (by decide) (hends k) (hg k)
  change Calm g.casts (textTokens "::numeric".toList ++ g.untyped.tokens k)
  rw [htokens]
  exact hcalm

/-- A calm fragment behind a fixed text that binds and casts nothing. -/
theorem fixed {s : String} (hs : (Piece.fixed s).isBare = true) (hg : g.IsCalm) :
    IsCalm (.fixed s :: g) := behind (f := [.fixed s]) (by simpa using hs) hg

/-- What a fragment begins with. -/
theorem head_fixed {P : Token → Bool} {s : String}
    (h : (textTokens s.toList).head?.any P = true) (g : Fragment) (k : Nat) :
    ∀ tok ∈ ((untyped (.fixed s :: g)).tokens k).head?, P tok = true := by
  obtain ⟨tok, hhead, htok⟩ := (Option.any_eq_true ..).mp h
  change ∀ tok ∈ (textTokens s.toList ++ g.untyped.tokens k).head?, P tok = true
  rw [List.head?_append, hhead]
  rintro _ ⟨⟩
  exact htok

/-- Calm fragments between separators that end terms. -/
theorem join {sep : String} (hsep : (Piece.fixed sep).isBare = true)
    (hends : (textTokens sep.toList).head?.any Token.endsTerm = true) {fs : List Fragment}
    (h : ∀ f ∈ fs, f.IsCalm) : (Fragment.join sep fs).IsCalm := by
  rw [Fragment.join]
  induction fs with
  | nil => exact nil
  | cons f fs ih =>
    obtain ⟨hf, hfs⟩ := List.forall_mem_cons.mp h
    cases fs with
    | nil =>
      rw [List.intercalate_singleton]
      exact hf
    | cons g fs =>
      rw [List.intercalate_cons_cons, List.append_assoc]
      exact hf.append (fixed hsep (ih hfs)) (head_fixed hends _)

/-- A closing parenthesis ends the term in front of it. -/
theorem paren (hf : f.IsCalm) : f.paren.IsCalm :=
  fixed (by decide) (hf.append (fixed (by decide) nil) (head_fixed (by decide) _))

end IsCalm

end Fragment

end RowGate
