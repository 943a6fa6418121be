import Mathlib.Data.List.Nodup
import RowGate.Proofs.Sql.OrderKeys

/-! # The names of hidden keys

A page sorts by its hidden keys and takes them out of every document, both by their names. It means
the hidden keys alone as long as the query shows no column of such a name; nothing keeps a query
from doing so.
-/

namespace RowGate

open Sql (Token Item SortTerm Selection textTokens)

/-! ## Reading a page -/

namespace Sql

/-- What a string literal stands for. -/
def Token.literal? : Token → Option String
  | quoted .literal s => some (String.ofList s)
  | _ => none

namespace Selection

/-- The names of the output columns. -/
def outputNames (s : Selection) : List String := s.items.filterMap Item.name?

/-- The members that a SELECT takes out of its documents. -/
def removedNames (s : Selection) : List String :=
  s.items.flatMap fun item ↦ item.expr.filterMap Token.literal?

/-- The members of the documents that a SELECT makes of the rows of another one. -/
def documentNames (outer inner : Selection) : List String :=
  inner.outputNames.filter fun name ↦ name ∉ outer.removedNames

end Selection

end Sql

/-- The query shows no column or aggregate under the name of one of its hidden keys. -/
def Query.NamesApart (q : Query) : Prop :=
  ∀ name ∈ q.columnNames, name ∉ (Request.rows q).orderNames

variable {t : Target} {q : Query} {keys : List HiddenKey}

/-- The numbered names are different for different numbers. -/
theorem orderName_injective : Function.Injective fun i : Nat ↦ "_order_" ++ toString i := by
  intro i j hij
  have htext := congrArg String.toList hij
  simp only [String.toList_append] at htext
  have hchars : (toString i).toList = (toString j).toList := List.append_cancel_left htext
  have hnumber := congrArg Decimal.readNat? hchars
  rw [Decimal.readNat?_toString, Decimal.readNat?_toString] at hnumber
  exact Option.some.inj hnumber

/-- No two hidden keys of a page have the same name. -/
theorem nodup_orderNames (r : Request) : r.orderNames.Nodup := by
  cases r with
  | rows q => exact List.Nodup.map orderName_injective (List.nodup_range' _)
  | _ => exact List.nodup_nil

/-- The items of the hidden keys are read as items with their names. -/
theorem outputNames_keys (h : ∀ k ∈ keys, k.expr.IsExpression) :
    ((keys.map HiddenKey.fragment).map Fragment.item).filterMap Item.name? =
      keys.map fun k ↦ k.name.name := by
  induction keys with
  | nil => rfl
  | cons k keys ih =>
    obtain ⟨hk, hkeys⟩ := List.forall_mem_cons.mp h
    have hname : k.fragment.item.name? = some k.name.name := by
      rw [HiddenKey.fragment, (hk.label k.name).2]
      simp [Item.name?]
    rw [List.map_cons, List.map_cons, List.filterMap_cons_some hname, ih hkeys, List.map_cons]

/-- The document of a page is without its hidden keys. -/
theorem literals_documentItem (keys : List HiddenKey) :
    ((documentItem keys).tokens 0).filterMap Token.literal? = keys.map fun k ↦ k.name.name := by
  have hrows : (textTokens "to_jsonb(_rows)".toList).filterMap Token.literal? = [] := by
    decide +kernel
  have hminus : (textTokens " - ".toList).filterMap Token.literal? = [] := by decide
  rw [documentItem, Fragment.tokens_fixed, List.filterMap_append, hrows, List.nil_append]
  induction keys with
  | nil => rfl
  | cons k keys ih =>
    have hname : Token.literal? (.quoted .literal k.name.name.toList) = some k.name.name := by
      rw [Token.literal?, String.ofList_toList]
    have hcons : Fragment.tokens 0 ((k :: keys).flatMap fun k ↦ [.fixed " - ", .key k.name.name]) =
        textTokens " - ".toList ++ .quoted .literal k.name.name.toList ::
          Fragment.tokens 0 (keys.flatMap fun k ↦ [.fixed " - ", .key k.name.name]) := rfl
    rw [hcons, List.filterMap_append, hminus, List.filterMap_cons_some hname, ih, List.map_cons]
    rfl

/-- The terms behind the inner SELECT are the quoted names of its hidden keys. -/
theorem map_key_outerTerms {R : OrderTerm → HiddenKey → Prop} {order : List OrderTerm}
    (h : List.Forall₂ R order keys) :
    (outerTerms order keys).map SortTerm.key =
      (keys.map fun k ↦ k.name.name).map fun name ↦ [.quoted .name name.toList] := by
  rw [outerTerms]
  induction h with
  | nil => rfl
  | cons _ _ ih => rw [List.zipWith_cons_cons, List.map_cons, ih, List.map_cons, List.map_cons]

/-! ## Names that are apart -/

/-- Hidden names that differ occur once if none of them is shown. -/
theorem count_append_eq_one_iff {shown hidden : List String} (hnodup : hidden.Nodup) :
    (∀ name ∈ hidden, (shown ++ hidden).count name = 1) ↔ ∀ name ∈ shown, name ∉ hidden := by
  have hcount : ∀ name ∈ hidden, ((shown ++ hidden).count name = 1 ↔ name ∉ shown) := by
    intro name hname
    rw [List.count_append, List.count_eq_one_of_mem hnodup hname, Nat.add_eq_right,
      List.count_eq_zero]
  constructor
  · intro h name hshown hhidden
    exact (hcount name hhidden).mp (h name hhidden) hshown
  · intro h name hhidden
    exact (hcount name hhidden).mpr fun hshown ↦ h name hshown hhidden

/-- Taking the hidden names out leaves what is shown if none of them is shown. -/
theorem filter_append_eq_self_iff {shown hidden : List String} :
    (shown ++ hidden).filter (fun name ↦ name ∉ hidden) = shown ↔
      ∀ name ∈ shown, name ∉ hidden := by
  have hnone : hidden.filter (fun name ↦ name ∉ hidden) = [] := by simp
  rw [List.filter_append, hnone, List.append_nil, List.filter_eq_self]
  simp

/-- The inner SELECT of a page has the names that the query shows and those of the hidden keys; the
page sorts by the hidden names and takes them out of the documents. The documents have all that the
query shows, and each hidden name is that of one inner column, just if the query shows none of these
names itself. -/
theorem names_apart_iff {page : Statement} (h : t.rows q = .ok page) :
    ∃ f inner, t.rowsFragment q = .ok f ∧ f.statement = page ∧ f.selection.inner? = some inner ∧
      inner.outputNames = q.columnNames ++ (Request.rows q).orderNames ∧
      f.selection.removedNames = (Request.rows q).orderNames ∧
      f.selection.order.map SortTerm.key =
        (Request.rows q).orderNames.map (fun name ↦ [.quoted .name name.toList]) ∧
      (f.selection.documentNames inner = q.columnNames ↔ q.NamesApart) ∧
      ((∀ name ∈ (Request.rows q).orderNames, inner.outputNames.count name = 1) ↔
        q.NamesApart) := by
  obtain ⟨f, hf, hs⟩ := map_eq_ok_iff.mp h
  obtain ⟨-, c, keys, hc, hkeys, hinner, hitems, horder⟩ := selection_page hf
  obtain ⟨hexprs, hkeyNames⟩ := Target.hiddenKeys_eq_ok hkeys
  have hkeyNames : (keys.map fun k ↦ k.name.name) = (Request.rows q).orderNames := hkeyNames
  have hexpressions : ∀ k ∈ keys, k.expr.IsExpression := by
    intro k hk
    obtain ⟨term, hterm⟩ := exists_of_forall₂ hexprs.flip hk
    exact OrderTerm.isExpression_key hterm
  have houtput : (c.selection q keys).outputNames =
      q.columnNames ++ (Request.rows q).orderNames := by
    rw [Selection.outputNames, Target.Clauses.selection, Target.Clauses.items, List.map_append,
      List.map_append, List.filterMap_append, List.filterMap_append, filterMap_columns hc.columns,
      filterMap_calls hc.calls, outputNames_keys hexpressions, hkeyNames]
    rfl
  have hremoved : f.selection.removedNames = (Request.rows q).orderNames := by
    rw [Selection.removedNames, hitems, List.flatMap_singleton,
      (isExpression_documentItem keys).item_eq, literals_documentItem, hkeyNames]
  refine ⟨f, c.selection q keys, hf, hs, hinner, houtput, hremoved, ?_, ?_, ?_⟩
  · rw [horder, map_key_outerTerms hexprs, hkeyNames]
  · rw [Selection.documentNames, houtput, hremoved]
    exact filter_append_eq_self_iff
  · rw [houtput]
    exact count_append_eq_one_iff (nodup_orderNames _)

theorem names_apart_byTown :
    ({ table := "docs" } : Target).rows byTown = .ok ⟨townPage, []⟩ ∧ byTown.NamesApart ∧
    ∃ f inner, ({ table := "docs" } : Target).rowsFragment byTown = .ok f ∧
      f.selection.inner? = some inner ∧ inner.outputNames = ["town", "_order_1"] ∧
      f.selection.documentNames inner = ["town"] := by
  have hpage : ({ table := "docs" } : Target).rows byTown = .ok ⟨townPage, []⟩ := by
    decide +kernel
  have hapart : byTown.NamesApart := by
    rw [Query.NamesApart]
    decide +kernel
  have hcolumns : byTown.columnNames = ["town"] := by decide +kernel
  have horder : (Request.rows byTown).orderNames = ["_order_1"] := by decide +kernel
  obtain ⟨f, inner, hf, -, hinner, houtput, -, -, hdocument, -⟩ := names_apart_iff hpage
  rw [hcolumns, horder] at houtput
  rw [hcolumns] at hdocument
  exact ⟨hpage, hapart, f, inner, hf, hinner, houtput, hdocument.mpr hapart⟩

/-- Names under the name of the first hidden key. -/
def hiddenNameShown : Query :=
  { select := [{ column := "name", label := some "_order_1" }], order := [{ column := "name" }] }

def hiddenNamePage : String :=
  "SELECT to_jsonb(_rows) - '_order_1' FROM (SELECT \"name\" AS \"_order_1\", " ++
    "\"name\" AS \"_order_1\" FROM \"t\" ORDER BY \"name\" ASC) AS _rows ORDER BY \"_order_1\" ASC"

/-- The one column that the query shows is taken out of the documents, and the page sorts by a name
that two columns have. -/
theorem names_not_apart :
    ({ table := "t" } : Target).rows hiddenNameShown = .ok ⟨hiddenNamePage, []⟩ ∧
    hiddenNameShown.columnNames = ["_order_1"] ∧
    (Selection.ofText? hiddenNamePage).bind (fun outer ↦ outer.inner?.map fun inner ↦
        (inner.outputNames, outer.order.map SortTerm.key, outer.documentNames inner)) =
      some (["_order_1", "_order_1"], [textTokens "\"_order_1\"".toList], []) := by
  refine ⟨?_, ?_, ?_⟩ <;> decide +kernel

end RowGate
