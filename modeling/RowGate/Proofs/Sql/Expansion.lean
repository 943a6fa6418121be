import RowGate.Proofs.Sql.Grammar

/-! # Types behind placeholders

In the units of a fragment a placeholder is one token with the type that it is cast to; in its text
the tokens of the type stand behind the placeholder. A SELECT is read alike from both, as long as no
type holds a keyword of a clause: it has the same clauses, with the types written out.
-/

namespace RowGate

namespace Sql

/-! ## Types written out -/

/-- The tokens of a placeholder with its type; any other token stands for itself. -/
def Token.expand : Token → List Token
  | lexeme .placeholder s => textTokens s
  | tok => [tok]

/-- Tokens with the types of their placeholders written out. -/
def expand (ts : List Token) : List Token := ts.flatMap Token.expand

/-- A SELECT with the types in its source and in its condition written out. -/
def Selection.expand (s : Selection) : Selection :=
  { s with source := Sql.expand s.source, condition := Sql.expand s.condition }

/-- Tokens whose placeholders close the parentheses that they open and hold none of some words. -/
def TypesWithin (stops : List String) (ts : List Token) : Prop :=
  ∀ s, Token.lexeme .placeholder s ∈ ts → Within stops (textTokens s)

section

variable {stops : List String} {a b ts : List Token} {s : Selection}

theorem expand_append (a b : List Token) : expand (a ++ b) = expand a ++ expand b :=
  List.flatMap_append

theorem expand_cons (tok : Token) (ts : List Token) :
    expand (tok :: ts) = tok.expand ++ expand ts := rfl

/-- A token is a placeholder or stands for itself. -/
theorem Token.expand_cases (tok : Token) :
    (∃ s, tok = .lexeme .placeholder s) ∨ tok.expand = [tok] := by
  cases tok with
  | lexeme k s =>
    cases k with
    | placeholder => exact .inl ⟨s, rfl⟩
    | word | number | operator | colons => exact .inr rfl
  | quoted q s => exact .inr rfl
  | mark c => exact .inr rfl

/-- Without placeholders there are no types to be written out. -/
theorem expand_of_placeholders (h : placeholders ts = []) : expand ts = ts := by
  induction ts with
  | nil => rfl
  | cons tok ts ih =>
    rw [placeholders, List.filterMap_eq_nil_iff, List.forall_mem_cons] at h
    rw [expand_cons, ih (List.filterMap_eq_nil_iff.mpr h.2)]
    rcases tok.expand_cases with ⟨s, rfl⟩ | hself
    · cases h.1
    · rw [hself]
      rfl

/-- The types in a text are those in each of its two parts. -/
theorem TypesWithin.append_iff :
    TypesWithin stops (a ++ b) ↔ TypesWithin stops a ∧ TypesWithin stops b := by
  simp only [TypesWithin, List.mem_append]
  exact ⟨fun h ↦ ⟨fun s hs ↦ h s (.inl hs), fun s hs ↦ h s (.inr hs)⟩,
    fun h s hs ↦ hs.elim (h.1 s) (h.2 s)⟩

theorem TypesWithin.mono {stops' : List String} (hstops : stops ⊆ stops')
    (h : TypesWithin stops' ts) : TypesWithin stops ts := fun s hs ↦ (h s hs).mono hstops

/-- Parentheses that match still do so when the types are written out. -/
theorem Nested.expand (h : Nested ts) (hts : TypesWithin stops ts) : Nested (Sql.expand ts) := by
  induction h with
  | nil => exact .nil
  | @token tok hopen hclose =>
    rw [Sql.expand, List.flatMap_singleton]
    rcases tok.expand_cases with ⟨s, rfl⟩ | hself
    · exact (hts s List.mem_cons_self).nested
    · rw [hself]
      exact .token hopen hclose
  | append _ _ iha ihb =>
    obtain ⟨ha, hb⟩ := TypesWithin.append_iff.mp hts
    rw [expand_append]
    exact (iha ha).append (ihb hb)
  | @paren a _ ih =>
    have ha : TypesWithin stops a := fun s hs ↦
      hts s (List.mem_append_left _ (List.mem_cons_of_mem _ hs))
    rw [expand_append]
    exact (ih ha).paren

/-- What stands in a text with its types written out stood there before, or it is in a type. -/
theorem mem_leveled_expand (h : Nested ts) (hts : TypesWithin stops ts) {d : Nat} {x : Leveled}
    (hx : x ∈ leveled d (expand ts)) :
    x ∈ leveled d ts ∨ ∃ s, Token.lexeme .placeholder s ∈ ts ∧ x.1 ∈ textTokens s := by
  induction h generalizing d with
  | nil => exact .inl hx
  | @token tok _ _ =>
    rw [expand, List.flatMap_singleton] at hx
    rcases tok.expand_cases with ⟨s, rfl⟩ | hself
    · have hmem : x.1 ∈ unleveled (leveled d (textTokens s)) := List.mem_map_of_mem hx
      rw [unleveled_leveled] at hmem
      exact .inr ⟨s, List.mem_cons_self, hmem⟩
    · rw [hself] at hx
      exact .inl hx
  | append ha _ iha ihb =>
    obtain ⟨hta, htb⟩ := TypesWithin.append_iff.mp hts
    rw [expand_append, (ha.expand hta).leveled_append, List.mem_append] at hx
    rw [ha.leveled_append, List.mem_append]
    rcases hx with hx | hx
    · rcases iha hta hx with hx | ⟨s, hs, hx⟩
      · exact .inl (.inl hx)
      · exact .inr ⟨s, List.mem_append_left _ hs, hx⟩
    · rcases ihb htb hx with hx | ⟨s, hs, hx⟩
      · exact .inl (.inr hx)
      · exact .inr ⟨s, List.mem_append_right _ hs, hx⟩
  | @paren a ha ih =>
    have hta : TypesWithin stops a := fun s hs ↦
      hts s (List.mem_append_left _ (List.mem_cons_of_mem _ hs))
    have hexpand : expand (.mark '(' :: a ++ [.mark ')']) = .mark '(' :: expand a ++ [.mark ')'] :=
      expand_append _ _
    have hleveled {b : List Token} (hb : Nested b) : leveled d (.mark '(' :: b ++ [.mark ')']) =
        (.mark '(', d + 1) :: (leveled (d + 1) b ++ [(.mark ')', d + 1)]) := by
      rw [List.cons_append, leveled_open, hb.leveled_append]
      rfl
    rw [hexpand, hleveled (ha.expand hta), List.mem_cons, List.mem_append] at hx
    rw [hleveled ha, List.mem_cons, List.mem_append]
    rcases hx with hx | hx | hx
    · exact .inl (.inl hx)
    · rcases ih hta hx with hx | ⟨s, hs, hx⟩
      · exact .inl (.inr (.inl hx))
      · exact .inr ⟨s, List.mem_append_left _ (List.mem_cons_of_mem _ hs), hx⟩
    · exact .inl (.inr (.inr hx))

/-- Types that hold none of some words do not break a text that is not broken by them. -/
theorem Unbroken.expand (h : Unbroken stops ts) (hts : TypesWithin stops ts) :
    Unbroken stops (Sql.expand ts) := by
  refine ⟨h.nested.expand hts, fun x hx ↦ ?_⟩
  rcases mem_leveled_expand h.nested hts hx with hx | ⟨s, hs, hx⟩
  · exact h.clear x hx
  · rw [breaksAt, (hts s hs).free x.1 hx, Bool.and_false]

/-- A clause stays one if the types in it end no clause. -/
theorem IsClause.expand {w : String} {body : List Token} (h : IsClause w stops ts body)
    (hts : TypesWithin stops ts) : IsClause w stops (Sql.expand ts) (Sql.expand body) := by
  cases h with
  | missing => exact .missing
  | present hs hbody =>
    exact .present hs (hbody.expand fun s hs ↦ hts s (List.mem_cons_of_mem _ hs))

end

/-! ## SELECTs -/

/-- The tokens of a SELECT, clause by clause, and what they are read as. Its rows are those of a
table or of another SELECT, and values are bound in its condition alone. -/
inductive IsSelect : List Token → Selection → Prop
  | table {select items source where' condition group groups order terms page : List Token}
    (hselect : IsClause "select" clauseWords select items)
    (hsource : Unbroken ("where" :: conditionStops) source)
    (hwhere : IsClause "where" conditionStops where' condition)
    (hgroup : IsClause "group" ["order", "limit", "offset"] group groups)
    (horder : IsClause "order" ["limit", "offset"] order terms)
    (hnested : Nested page) (hpage : Begins ["limit", "offset"] (leveled 0 page))
    (htable : source.head? ≠ some (.mark '('))
    (hplain : placeholders (select ++ (source ++ (group ++ (order ++ page)))) = []) :
    IsSelect (select ++ (.lexeme .word "FROM".toList :: source ++
        (where' ++ (group ++ (order ++ page)))))
      { items := (members (leveled 0 items)).map Item.ofTokens
        source := source
        condition := condition
        groups := (membersBehindBy (leveled 0 groups)).map unleveled
        order := (membersBehindBy (leveled 0 terms)).map SortTerm.ofTokens
        page := page }
  | around {select items inner label order terms : List Token} {s : Selection}
    (hselect : IsClause "select" clauseWords select items) (hinner : IsSelect inner s)
    (hlabel : Within ("where" :: conditionStops) label)
    (horder : IsClause "order" ["limit", "offset"] order terms)
    (hplain : placeholders (select ++ (label ++ order)) = []) :
    IsSelect (select ++ (.lexeme .word "FROM".toList ::
        (.mark '(' :: inner ++ [.mark ')'] ++ label) ++ order))
      { items := (members (leveled 0 items)).map Item.ofTokens
        source := .mark '(' :: inner ++ [.mark ')'] ++ label
        condition := []
        groups := []
        order := (membersBehindBy (leveled 0 terms)).map SortTerm.ofTokens
        page := [] }

namespace IsSelect

variable {ts label : List Token} {s : Selection}

/-- A SELECT closes the parentheses that it opens. -/
theorem nested (h : IsSelect ts s) : Nested ts := by
  have hfrom {source : List Token} (hsource : Nested source) :
      Nested (.lexeme .word "FROM".toList :: source) := .cons (by simp) (by simp) hsource
  induction h with
  | table hselect hsource hwhere hgroup horder hnested =>
    exact hselect.nested.append ((hfrom hsource.nested).append (hwhere.nested.append
      (hgroup.nested.append (horder.nested.append hnested))))
  | around hselect _ hlabel horder _ ih =>
    exact hselect.nested.append ((hfrom (ih.paren.append hlabel.nested)).append horder.nested)

/-- Its clauses are what it is read as. -/
theorem ofTokens_eq (h : IsSelect ts s) : Selection.ofTokens ts = s := by
  cases h with
  | table hselect hsource hwhere hgroup horder _ hpage =>
    have hfrom : IsClause "from" _ _ _ := .present (s := "FROM".toList) (by decide) hsource
    exact Selection.ofTokens_append hselect hfrom hwhere hgroup horder hpage
  | around hselect hinner hlabel horder =>
    exact Selection.ofTokens_around hselect hinner.nested hlabel horder

/-- The SELECT in the parentheses that begin a source. -/
theorem inner?_eq {outer : Selection} (h : IsSelect ts s)
    (hsource : outer.source = .mark '(' :: ts ++ [.mark ')'] ++ label) :
    outer.inner? = some s := by
  have hparen : outer.source = .mark '(' :: (ts ++ .mark ')' :: label) := by
    rw [hsource]
    simp only [List.append_assoc, List.cons_append, List.nil_append]
  rw [Selection.inner?_eq h.nested hparen, h.ofTokens_eq]

/-- A SELECT with its types written out is still one. -/
theorem expand (h : IsSelect ts s) (hts : TypesWithin clauseWords ts) :
    IsSelect (Sql.expand ts) s.expand := by
  induction h with
  | @table select items source where' condition group groups order terms page hselect hsource
      hwhere hgroup horder hnested hpage htable hplain =>
    have hwhereTypes : TypesWithin conditionStops where' := fun s hs ↦
      (hts s (by simp [hs])).mono (by decide)
    have hparts := hplain
    simp only [placeholders_append, List.append_eq_nil_iff] at hparts
    obtain ⟨hselectPlain, hsourcePlain, hgroupPlain, horderPlain, hpagePlain⟩ := hparts
    have htokens : Sql.expand (select ++ (.lexeme .word "FROM".toList :: source ++
          (where' ++ (group ++ (order ++ page))))) =
        select ++ (.lexeme .word "FROM".toList :: source ++
          (Sql.expand where' ++ (group ++ (order ++ page)))) := by
      simp only [expand_append, expand_cons, expand_of_placeholders, hselectPlain, hsourcePlain,
        hgroupPlain, horderPlain, hpagePlain, Token.expand, List.cons_append, List.nil_append]
    rw [htokens, Selection.expand]
    simp only [expand_of_placeholders hsourcePlain]
    exact .table hselect hsource (hwhere.expand hwhereTypes) hgroup horder hnested hpage htable
      hplain
  | @around select items inner label order terms s hselect hinner hlabel horder hplain ih =>
    have hinnerTypes : TypesWithin clauseWords inner := fun s hs ↦ hts s (by simp [hs])
    have hparts := hplain
    simp only [placeholders_append, List.append_eq_nil_iff] at hparts
    obtain ⟨hselectPlain, hlabelPlain, horderPlain⟩ := hparts
    have hsource : Sql.expand (.mark '(' :: inner ++ [.mark ')'] ++ label) =
        .mark '(' :: Sql.expand inner ++ [.mark ')'] ++ label := by
      simp only [expand_append, expand_cons, expand_of_placeholders hlabelPlain, Token.expand,
        List.cons_append, List.nil_append]
      rfl
    have htokens : Sql.expand (select ++ (.lexeme .word "FROM".toList ::
          (.mark '(' :: inner ++ [.mark ')'] ++ label) ++ order)) =
        select ++ (.lexeme .word "FROM".toList ::
          (.mark '(' :: Sql.expand inner ++ [.mark ')'] ++ label) ++ order) := by
      rw [expand_append, expand_append, expand_cons, hsource, expand_of_placeholders hselectPlain,
        expand_of_placeholders horderPlain]
      rfl
    rw [htokens, Selection.expand]
    simp only [hsource]
    exact .around hselect (ih hinnerTypes) hlabel horder hplain

/-- With the types written out, so they are in the SELECT that the rows are taken from. -/
theorem inner?_expand (h : IsSelect ts s) (hts : TypesWithin clauseWords ts) :
    s.expand.inner? = s.inner?.map Selection.expand := by
  cases h with
  | @table select items source where' condition group groups order terms page hselect hsource
      hwhere hgroup horder hnested hpage htable hplain =>
    simp only [placeholders_append, List.append_eq_nil_iff] at hplain
    have hnone {outer : Selection} (houter : outer.source = source) : outer.inner? = none := by
      rw [Selection.inner?, houter]
      cases source with
      | nil => rfl
      | cons tok source =>
        have htok : tok ≠ .mark '(' := fun h ↦ htable (congrArg some h)
        split
        next heq => exact absurd (List.cons.inj heq).1 htok
        next => rfl
    rw [hnone (expand_of_placeholders hplain.2.1), hnone rfl]
    rfl
  | @around select items inner label order terms s hselect hinner hlabel horder hplain =>
    have hinnerTypes : TypesWithin clauseWords inner := fun s hs ↦ hts s (by simp [hs])
    have hsource : Sql.expand (.mark '(' :: inner ++ [.mark ')'] ++ label) =
        .mark '(' :: Sql.expand inner ++ [.mark ')'] ++ Sql.expand label := by
      simp only [expand_append, expand_cons, Token.expand, List.cons_append, List.nil_append]
      rfl
    rw [(hinner.expand hinnerTypes).inner?_eq hsource, hinner.inner?_eq rfl]
    rfl

end IsSelect

/-- A text that is read between tokens has the tokens that it is read as. -/
theorem Reads.textTokens_eq {q : Place} {s : List Char} {ts : List Token} (h : Reads .free q s ts) :
    textTokens s = ts := (h .free rfl).2

end Sql

/-! ## Fragments -/

open Sql (Token TypesWithin textTokens)

variable {V : Vocabulary} {f : Fragment}

/-- The text of a placeholder is read as the placeholder and the tokens of its cast. -/
theorem textTokens_placeholder {v : SqlValue} {type : Option String} (h : V.Has (.bound v type))
    (n : Nat) : textTokens (placeholder n v type).toList = (Piece.bound v type).tokens n :=
  (reads_bound (fun _ ↦ Vocabulary.isTypeName_castType h) n).textTokens_eq

/-- The tokens of a piece are its units with the types written out. -/
theorem Piece.tokens_eq_expand {p : Piece} (h : V.Has p) (n : Nat) :
    p.tokens n = Sql.expand (p.units n) := by
  cases p with
  | bound v type =>
    rw [units, Sql.expand, List.flatMap_singleton]
    exact (textTokens_placeholder h n).symm
  | fixed _ | name _ | key _ | number _ =>
    exact (Sql.expand_of_placeholders (Vocabulary.placeholders_piece h n)).symm

namespace Fragment

/-- The tokens of a fragment are its units with the types written out. -/
theorem tokens_eq_expand (h : ∀ p ∈ f, V.Has p) (k : Nat) :
    f.tokens k = Sql.expand (f.units k) := by
  induction f generalizing k with
  | nil => rfl
  | cons p f ih =>
    obtain ⟨hp, hf⟩ := List.forall_mem_cons.mp h
    rw [tokens, units, Sql.expand_append, ih hf, Piece.tokens_eq_expand hp]

/-- A fragment without values has no placeholders. -/
theorem placeholders_of_values (h : ∀ p ∈ f, V.Has p) (hvalues : f.values = []) (k : Nat) :
    Sql.placeholders (f.tokens k) = [] := by
  rw [Vocabulary.placeholders_tokens h, hvalues]
  rfl

/-- The types of a fragment are those that its values are cast to. -/
theorem typesWithin {stops : List String} (h : ∀ p ∈ f, V.Has p)
    (hcasts : ∀ v type, Piece.bound v type ∈ f → Sql.Within stops (castTokens (castType? v type)))
    (k : Nat) : TypesWithin stops (f.units k) := by
  induction f generalizing k with
  | nil => exact fun s hs ↦ absurd hs List.not_mem_nil
  | cons p f ih =>
    obtain ⟨hp, hf⟩ := List.forall_mem_cons.mp h
    rw [units, TypesWithin.append_iff]
    refine ⟨fun s hs ↦ ?_, ih hf (fun v type hmem ↦ hcasts v type (List.mem_cons_of_mem p hmem)) _⟩
    cases p with
    | bound v type =>
      obtain rfl : s = (placeholder (k + 1) v type).toList := by simpa [Piece.units] using hs
      have hnumber : Sql.Within stops
          [.lexeme .placeholder ('$' :: (toString (k + 1)).toList)] := .of_all rfl
      rw [textTokens_placeholder hp]
      exact hnumber.append (hcasts v type List.mem_cons_self)
    | fixed _ | name _ | key _ | number _ =>
      have hnone := Vocabulary.placeholders_piece hp (k + 1)
      cases List.filterMap_eq_nil_iff.mp hnone _ hs

end Fragment

end RowGate
