import RowGate.Proofs.Sql.Request
import RowGate.Proofs.Sql.Selection

/-! # Where clauses end

No fragment of the compiler leaves a parenthesis open or closes one of others, and none holds a word
that ends the clause in which it stands. Names and keys are quoted, so they are no such words; the
type that a placeholder is cast to belongs to the placeholder.
-/

namespace RowGate

open Sql (Nested Within Token textTokens)

namespace Sql

/-- The keywords behind a select list. -/
def clauseWords : List String := ["from", "where", "group", "order", "limit", "offset"]

/-- The words that end a condition. -/
def conditionStops : List String := ["group", "order", "limit", "offset"]

/-- What ends an expression in a list. -/
def expressionStops : List String := "," :: "as" :: "asc" :: "desc" :: "nulls" :: clauseWords

/-- Whether a token may stand anywhere. -/
def Token.isInner (stops : List String) (tok : Token) : Bool :=
  tok ≠ .mark '(' && tok ≠ .mark ')' && !tok.isOneOf stops

/-- Whether a text has only such tokens. -/
def isInnerText (stops : List String) (s : String) : Bool :=
  (textTokens s.toList).all (Token.isInner stops)

/-- Whether a text ends with a parenthesis that it opens. -/
def isOpening (stops : List String) (s : String) : Bool :=
  (textTokens s.toList).getLast? = some (.mark '(') &&
    (textTokens s.toList).dropLast.all (Token.isInner stops)

/-- Whether a text begins with a parenthesis that it closes. -/
def isClosing (stops : List String) (s : String) : Bool :=
  (textTokens s.toList).head? = some (.mark ')') &&
    (textTokens s.toList).tail.all (Token.isInner stops)

variable {stops : List String}

theorem Within.nil : Within stops [] := ⟨.nil, fun _ h ↦ nomatch h⟩

/-- Tokens that may stand anywhere leave nothing open. -/
theorem Within.of_all {ts : List Token} (h : ts.all (Token.isInner stops) = true) :
    Within stops ts := by
  have hts : ∀ tok ∈ ts, (tok ≠ .mark '(' ∧ tok ≠ .mark ')') ∧ tok.isOneOf stops = false := by
    intro tok htok
    simpa [Token.isInner] using List.all_eq_true.mp h tok htok
  exact ⟨.of_forall fun tok htok ↦ (hts tok htok).1, fun tok htok ↦ (hts tok htok).2⟩

end Sql

/-- The tokens of a piece, where a placeholder is one with the type that it is cast to. -/
def Piece.units (n : Nat) : Piece → List Token
  | bound v type => [.lexeme .placeholder (placeholder n v type).toList]
  | p => p.tokens n

namespace Fragment

/-- The tokens of a fragment, where placeholders are one with their types. -/
def units : Nat → Fragment → List Token
  | _, [] => []
  | k, p :: ps => p.units (k + 1) ++ units (k + p.width) ps

theorem units_fixed (k : Nat) (s : String) (f : Fragment) :
    units k (.fixed s :: f) = textTokens s.toList ++ units k f := rfl

/-- The placeholders of the second fragment go on from those of the first. -/
theorem units_append (k : Nat) (f g : Fragment) :
    units k (f ++ g) = units k f ++ units (k + (values f).length) g := by
  induction f generalizing k with
  | nil => rfl
  | cons p ps ih =>
    rw [List.cons_append, units, ih, units, List.append_assoc, length_values_cons, Nat.add_assoc]

/-- Without values there are no placeholders, and it does not matter how many there are before. -/
theorem units_of_values {f : Fragment} (h : f.values = []) (k : Nat) : f.units k = f.tokens 0 := by
  have htokens (m : Nat) : f.units k = f.tokens m := by
    induction f generalizing k m with
    | nil => rfl
    | cons p ps ih =>
      cases p with
      | bound v type => cases h
      | fixed _ | name _ | key _ | number _ => exact congrArg (_ ++ ·) (ih h k m)
  exact htokens 0

end Fragment

/-- A fragment that leaves no parenthesis open and holds none of some words, wherever it stands. -/
def Fragment.Within (stops : List String) (f : Fragment) : Prop :=
  ∀ k, Sql.Within stops (f.units k)

namespace Fragment.Within

variable {stops stops' : List String} {f g : Fragment}

theorem nil : Fragment.Within stops [] := fun _ ↦ Sql.Within.nil

/-- What holds no word of more words holds none of fewer. -/
theorem mono (hstops : stops ⊆ stops') (h : f.Within stops') : f.Within stops :=
  fun k ↦ (h k).mono hstops

/-- Two fragments, one behind the other. -/
theorem append (hf : f.Within stops) (hg : g.Within stops) : (f ++ g).Within stops := by
  intro k
  rw [units_append]
  exact (hf k).append (hg _)

/-- A single piece is looked at under each number that its placeholder may have. -/
theorem of_piece {p : Piece} (h : ∀ n, Sql.Within stops (p.units n)) :
    Fragment.Within stops [p] := by
  intro k
  rw [units, units, List.append_nil]
  exact h (k + 1)

/-- A fixed text is checked by computation. -/
theorem fixed {s : String} (h : Sql.isInnerText stops s = true) :
    Fragment.Within stops [.fixed s] := of_piece fun _ ↦ .of_all h

theorem name (i : Identifier) : Fragment.Within stops [.name i] := of_piece fun _ ↦ .of_all rfl

theorem key (s : String) : Fragment.Within stops [.key s] := of_piece fun _ ↦ .of_all rfl

theorem number (n : Nat) : Fragment.Within stops [.number n] := of_piece fun _ ↦ .of_all rfl

/-- A cast of a placeholder adds no words, whatever its text, as it is no token of its own. -/
theorem bound (v : SqlValue) (type : Option String) : Fragment.Within stops [.bound v type] :=
  of_piece fun _ ↦ .of_all rfl

/-- A fragment between a text that opens a parenthesis and one that closes it. -/
theorem enclosed {s s' : String} (hs : Sql.isOpening stops s = true)
    (hs' : Sql.isClosing stops s' = true) (hf : f.Within stops) :
    Fragment.Within stops (.fixed s :: f ++ [.fixed s']) := by
  intro k
  obtain ⟨hlast, hinit⟩ := (Bool.and_eq_true ..).mp hs
  obtain ⟨hhead, htail⟩ := (Bool.and_eq_true ..).mp hs'
  have hopen : textTokens s.toList = (textTokens s.toList).dropLast ++ [.mark '('] :=
    (List.dropLast_append_getLast? _ (of_decide_eq_true hlast)).symm
  have hclose : textTokens s'.toList = .mark ')' :: (textTokens s'.toList).tail :=
    (List.cons_head?_tail (of_decide_eq_true hhead)).symm
  have hunits : units k (.fixed s :: f ++ [.fixed s']) =
      (textTokens s.toList).dropLast ++ (.mark '(' :: units k f ++ [.mark ')']) ++
        (textTokens s'.toList).tail := by
    rw [List.cons_append, units_fixed, units_append, units_fixed, hopen, hclose]
    simp [units]
  rw [hunits]
  exact ((Sql.Within.of_all hinit).append (hf k).paren).append (Sql.Within.of_all htail)

/-- Fragments between separators that leave nothing open themselves. -/
theorem join {sep : String} (hsep : Sql.isInnerText stops sep = true) {fs : List Fragment}
    (h : ∀ f ∈ fs, f.Within stops) : (Fragment.join sep fs).Within stops := by
  rw [Fragment.join]
  induction fs with
  | nil => exact nil
  | cons f fs ih =>
    obtain ⟨hf, hfs⟩ := List.forall_mem_cons.mp h
    cases fs with
    | nil =>
      rw [List.intercalate_singleton]
      exact hf
    | cons g fs =>
      rw [List.intercalate_cons_cons]
      exact (hf.append (fixed hsep)).append (ih hfs)

end Fragment.Within

/-! ## Expressions -/

namespace Fragment.Within

variable {f : Fragment}

/-- A path has no words and no commas at all. -/
theorem path_of_accessors {stops : List String}
    (h : ∀ accessor : Accessor, Sql.isInnerText stops accessor.sql = true) (p : ColumnPath) :
    p.fragment.Within stops := by
  have hsteps : ∀ steps : List PathStep, Fragment.Within stops
      (steps.flatMap fun step ↦ [.fixed step.accessor.sql, step.key.piece]) := by
    intro steps
    induction steps with
    | nil => exact nil
    | cons step steps ih =>
      have hkey : Fragment.Within stops [step.key.piece] := by
        cases step.key with
        | name s => exact key s
        | index n => exact number n
      exact ((fixed (h step.accessor)).append hkey).append ih
  exact (name p.column).append (hsteps p.steps)

theorem path (p : ColumnPath) : p.fragment.Within Sql.expressionStops :=
  path_of_accessors (by rintro (_ | _) <;> decide) p

/-- A fragment in parentheses. -/
theorem paren (h : f.Within Sql.expressionStops) : f.paren.Within Sql.expressionStops :=
  enclosed (by decide) (by decide) h

/-- The cast stands behind the parentheses of what it casts. -/
theorem castNumeric (h : f.Within Sql.expressionStops) :
    (RowGate.castNumeric f).Within Sql.expressionStops := h.paren.append (fixed (by decide))

/-- The whole document as text, an operator and a key within parentheses. -/
theorem documentText (h : f.Within Sql.expressionStops) :
    (RowGate.documentText f).Within Sql.expressionStops := by
  have hpath : Fragment.Within Sql.expressionStops [.fixed " #>> ", .key wholeDocument] :=
    (fixed (by decide)).append (key wholeDocument)
  have htext : RowGate.documentText f =
      .fixed "(" :: (f ++ [.fixed " #>> ", .key wholeDocument]) ++ [.fixed ")"] := by
    simp [RowGate.documentText, wholeDocument]
  rw [htext]
  exact enclosed (by decide) (by decide) (h.append hpath)

/-- The column side of a comparison, in each of the forms that it takes. -/
theorem comparisonOperands (p : ColumnPath) (op : Operator) (v : FilterValue) :
    (RowGate.comparisonOperands p op v).1.Within Sql.expressionStops := by
  rw [RowGate.comparisonOperands]
  split_ifs
  · exact (path p).castNumeric
  · exact (path p).documentText
  · exact path p
  · exact path p
  · exact path p

/-- The argument of a call is a star or a path, which arithmetic may cast to a number. -/
theorem argument {a : Aggregation} (h : a.argument = .ok f) : f.Within Sql.expressionStops := by
  rw [Aggregation.argument] at h
  split at h
  · cases h
    exact fixed (by decide)
  · cases h
  · obtain ⟨p, -, h⟩ := bind_eq_ok_iff.mp h
    cases h
    split
    · exact (path p).castNumeric
    · exact path p

/-- A call of an aggregation, its argument in parentheses behind the name of the function. -/
theorem call {a : Aggregation} (h : a.call = .ok f) : f.Within Sql.expressionStops := by
  obtain ⟨arg, harg, h⟩ := bind_eq_ok_iff.mp h
  cases h
  have hname : Fragment.Within Sql.expressionStops [.fixed a.function.sql] := by
    cases a.function <;> exact fixed (by decide)
  exact hname.append (argument harg).paren

/-- A table has no words at all. -/
theorem table_of_point {stops : List String} (hpoint : Sql.isInnerText stops "." = true)
    {t : Target} (h : t.fragment = .ok f) : f.Within stops := by
  rcases Target.fragment_cases h with ⟨i, rfl⟩ | ⟨s, i, rfl⟩
  · exact name i
  · exact ((name s).append (fixed hpoint)).append (name i)

theorem tableFragment {t : Target} (h : t.fragment = .ok f) : f.Within Sql.expressionStops :=
  table_of_point (by decide) h

end Fragment.Within

/-! ## Conditions -/

section

variable {table : Option TableInfo} {f g : Fragment} {p : ColumnPath}

theorem conditionStops_subset : Sql.conditionStops ⊆ Sql.expressionStops := by decide

namespace Filter

variable {c : Filter}

/-- `IS NULL`, or a test against a bound truth value. -/
theorem within_isFragment (h : c.isFragment p = .ok g) : g.Within Sql.conditionStops := by
  have hp : p.fragment.Within Sql.conditionStops :=
    (Fragment.Within.path p).mono conditionStops_subset
  rw [isFragment] at h
  split at h
  · cases h
    exact hp.append (.fixed (by decide))
  · cases h
    exact hp.append ((Fragment.Within.fixed (by decide)).append (.bound _ none))
  · cases h

/-- A distance test, with one call within the other. -/
theorem within_geoFragment (h : c.geoFragment p = .ok g) : g.Within Sql.conditionStops := by
  have hp : p.fragment.Within Sql.conditionStops :=
    (Fragment.Within.path p).mono conditionStops_subset
  rw [geoFragment] at h
  split at h
  · split at h
    · cases h
    next distance geometry _ =>
      cases h
      have hpoint : Fragment.Within Sql.conditionStops
          (.fixed ", ST_GeomFromGeoJSON(" :: [.bound (.text geometry) none] ++ [.fixed "), "]) :=
        .enclosed (by decide) (by decide) (.bound _ none)
      have hinner := (hp.append hpoint).append (.bound (.float distance) none)
      have hwhole :
          Fragment.Within Sql.conditionStops (.fixed "ST_DWithin(" :: _ ++ [.fixed ")"]) :=
        .enclosed (by decide) (by decide) hinner
      simpa using hwhole
  · cases h

/-- A test against an array, in the parentheses of `ANY`. -/
theorem within_inFragment (h : c.inFragment p (columnOf table p) = .ok g) :
    g.Within Sql.conditionStops := by
  rw [inFragment] at h
  split at h
  · cases h
  · cases h
    have hleft : (if p.extractsJson then documentText p.fragment else p.fragment).Within
        Sql.conditionStops := by
      split
      · exact (Fragment.Within.path p).documentText.mono conditionStops_subset
      · exact (Fragment.Within.path p).mono conditionStops_subset
    exact hleft.append (Fragment.Within.enclosed (by decide) (by decide) (.bound _ _))

/-- Operands around the symbol of an operator, or a test against `NULL` in their place. -/
theorem within_binaryFragment {op : Operator} {symbol : String} (hop : op.sql? = some symbol)
    (h : c.binaryFragment p (columnOf table p) symbol = .ok g) :
    g.Within Sql.conditionStops := by
  have hp : p.fragment.Within Sql.conditionStops :=
    (Fragment.Within.path p).mono conditionStops_subset
  rcases binaryFragment_eq_ok h with ⟨-, -, rfl⟩ | ⟨-, -, rfl⟩ | ⟨-, rfl⟩
  · exact hp.append (.fixed (by decide))
  · exact hp.append (.fixed (by decide))
  · have hleft := (Fragment.Within.comparisonOperands p c.operator c.value).mono
      conditionStops_subset
    have hsymbol : Fragment.Within Sql.conditionStops [.fixed (" " ++ symbol ++ " ")] := by
      refine .fixed ?_
      cases op <;> cases hop <;> decide
    exact hleft.append (hsymbol.append (.bound _ _))

/-- Each condition of a filter ends no clause and closes no parenthesis of others. -/
theorem within_fragment (h : c.fragment table = .ok g) : g.Within Sql.conditionStops := by
  rw [fragment_eq_bind] at h
  obtain ⟨p, -, h⟩ := bind_eq_ok_iff.mp h
  rw [conditionOf] at h
  split at h
  · exact within_isFragment h
  · exact within_inFragment h
  · exact within_geoFragment h
  · split at h
    next symbol hsymbol => exact within_binaryFragment hsymbol h
    · cases h

end Filter

theorem Part.within_fragment {part : Part} (h : part.fragment table = .ok g) :
    g.Within Sql.conditionStops := by
  cases part with
  | alone c => exact c.within_fragment h
  | anyOf n cs =>
    obtain ⟨alternatives, halternatives, h⟩ := bind_eq_ok_iff.mp h
    cases h
    refine Fragment.Within.enclosed (by decide) (by decide) (.join (by decide) fun item hitem ↦ ?_)
    obtain ⟨c, -, hc⟩ := exists_of_mem_mapM halternatives hitem
    exact c.within_fragment hc

theorem within_whereFragment {cs : List Filter} (h : whereFragment table cs = .ok (some g)) :
    g.Within Sql.conditionStops := by
  obtain ⟨-, parts, hparts, rfl⟩ := whereFragment_eq_some_iff.mp h
  refine .join (by decide) fun item hitem ↦ ?_
  obtain ⟨part, -, hpart⟩ := exists_of_mem_mapM hparts hitem
  exact part.within_fragment hpart

end

end RowGate
