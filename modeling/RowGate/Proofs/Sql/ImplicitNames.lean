import RowGate.Proofs.Sql.Compiler
import RowGate.Proofs.Sql.Reference
import RowGate.Proofs.Text.Digit

/-! # Items without an alias

A path into a document and an aggregate are written into a select list with a name, which is made
of their reference where the query gives them no alias. Whatever reference is read, the name that is
made of it can only be too long for the server.
-/

namespace RowGate

/-- What is built around a name succeeds if the server reads the name in full, and else reports it
as too long. -/
def UnlessLong {α : Type} (name : String) (x : Except QueryError α) : Prop :=
  if name.utf8ByteSize ≤ maxNameBytes then ∃ a, x = .ok a
  else x = .error (.ofName (.tooLong name))

namespace Query

/-- Selects a reference under no alias. -/
def selecting (raw : String) : Query := { select := [{ column := raw }] }

/-- Applies a function to a reference, under no alias. -/
def applying (a : AggregateFunction) (raw : String) : Query :=
  { aggregations := [{ function := a, column := some raw }] }

end Query

variable {raw name : String} {p : ColumnPath}

/-! ## Names -/

/-- What goes on behind the name does not change whether it is too long. -/
theorem UnlessLong.map {α β : Type} {x : Except QueryError α} (h : UnlessLong name x)
    (f : α → β) : UnlessLong name (x.map f) := by
  rw [UnlessLong] at h ⊢
  split at h
  next hsize =>
    rw [if_pos hsize]
    obtain ⟨a, rfl⟩ := h
    exact ⟨f a, rfl⟩
  next hsize =>
    rw [if_neg hsize, h]
    rfl

/-- A text that is a name but for its length can only be too long for an alias. -/
theorem IsName.unlessLong (h : IsName name) (expr : Fragment) :
    UnlessLong name (aliased expr name) := by
  rw [UnlessLong]
  split
  next hsize =>
    have hsound := h.nameFault?_eq_none hsize
    exact ⟨_, aliased_eq_ok_iff.mpr ⟨⟨name, hsound⟩, readName_eq_ok_iff.mpr rfl, rfl⟩⟩
  next hsize =>
    have hfault : nameFault? name = some (.tooLong name) := by
      rw [nameFault?, if_neg h.ne_empty, if_pos (Nat.lt_of_not_le hsize)]
    rw [aliased, readName, Identifier.ofString_eq_error_iff.mpr hfault]
    rfl

/-- The last key of a path is a name but for its length. -/
theorem isName_outputName (h : readPath raw = .ok p) (hjson : p.isJson = true) :
    IsName p.outputName := by
  obtain ⟨s, step, -, hlast, hkey⟩ := exists_last_key h hjson
  rw [ColumnPath.outputName, hlast]
  exact (PathKey.noControl hkey).2

theorem AggregateFunction.isName (a : AggregateFunction) : IsName (a.name ++ "_") := by
  cases a <;> exact ⟨by decide, by decide⟩

/-! ## Stems -/

/-- The stem is taken from the last piece between arrows; a mark of an arrow is no control
character. -/
theorem noControl_stem_of_forall {piece : List Char}
    (hpiece : (Text.arrowPieces raw.toList).getLast? = some piece)
    (h : ∀ c ∈ piece, c ≠ '>' → Text.isControl c = false) :
    hasControl (Aggregation.stem raw) = false := by
  have hmark : Text.isControl '>' = false := by decide
  rw [Aggregation.stem, hpiece, hasControl_eq_false_iff, String.toList_ofList]
  intro c hc
  by_cases heq : c = '>'
  · exact heq ▸ hmark
  · exact h c ((List.dropWhile_sublist _).subset hc) heq

/-- A reference without control characters has a stem without them. -/
theorem noControl_stem (h : hasControl raw = false) :
    hasControl (Aggregation.stem raw) = false := by
  have hlast := List.getLast?_eq_some_getLast (Text.arrowPieces_ne_nil raw.toList)
  refine noControl_stem_of_forall hlast fun c hc _ ↦ ?_
  have hflat := List.mem_flatten_of_mem (List.getLast_mem (Text.arrowPieces_ne_nil _)) hc
  exact hasControl_eq_false_iff.mp h c ((Text.arrowPieces_flatten_sublist _).subset hflat)

/-- The stem of a path is made of its last key, which has no control characters. -/
theorem noControl_stem_of_isJson (h : readPath raw = .ok p) (hjson : p.isJson = true) :
    hasControl (Aggregation.stem raw) = false := by
  obtain ⟨s, step, hs, -, hkey⟩ := exists_last_key h hjson
  rw [keyTexts, List.getLast?_map, Option.map_eq_some_iff] at hs
  obtain ⟨piece, hpiece, rfl⟩ := hs
  rw [List.getLast?_tail, Option.ite_none_left_eq_some] at hpiece
  refine noControl_stem_of_forall hpiece.2 fun c hc hmark ↦ (PathKey.noControl hkey).1 c ?_
  unfold afterArrow
  split
  next s => exact (List.mem_cons.mp hc).resolve_left hmark
  next => exact hc

/-! ## Items -/

/-- The select list of one reference is its item. -/
theorem selectClause_selecting (raw : String) : selectClause (.selecting raw) =
    (SelectColumn.fragment { column := raw }).map fun f ↦ Fragment.join ", " [f] := by
  simp only [selectClause, Query.selecting, Query.isAggregate, List.isEmpty_nil, List.mapM_cons,
    List.mapM_nil, Bool.not_true, Bool.or_self, Bool.false_eq_true, if_false]
  cases SelectColumn.fragment { column := raw } <;> rfl

/-- The select list of one call is its item. -/
theorem selectClause_applying (a : AggregateFunction) (raw : String) :
    selectClause (.applying a raw) =
      (Aggregation.fragment { function := a, column := some raw }).map fun f ↦
        Fragment.join ", " [f] := by
  simp only [selectClause, Query.applying, Query.isAggregate, List.isEmpty_cons, List.mapM_cons,
    List.mapM_nil, Bool.not_false, Bool.true_or, if_true]
  cases Aggregation.fragment { function := a, column := some raw } <;> rfl

/-- The wildcard is no path into a document. -/
theorem ne_wildcard_of_isJson (h : readPath raw = .ok p) (hjson : p.isJson = true) :
    raw ≠ "*" := by
  rintro rfl
  obtain ⟨s, -, hs, -⟩ := exists_last_key h hjson
  have hnone : (keyTexts "*").getLast? = none := by decide
  rw [hnone] at hs
  cases hs

/-- A path into a document is selected under the name that it suggests. -/
theorem fragment_of_isJson (h : readPath raw = .ok p) (hjson : p.isJson = true) :
    SelectColumn.fragment { column := raw } = aliased p.fragment p.outputName := by
  have hplain := ne_wildcard_of_isJson h hjson
  rw [SelectColumn.fragment, if_neg (by simpa [SelectColumn.isWildcard] using hplain), h]
  exact if_pos hjson

/-- A column by itself is selected without a name. -/
theorem exists_fragment (h : readPath raw = .ok p) (hjson : p.isJson = false) :
    ∃ f, SelectColumn.fragment { column := raw } = .ok f := by
  rw [SelectColumn.fragment]
  split
  · exact ⟨_, rfl⟩
  · exact ⟨p.fragment, bind_eq_ok_iff.mpr ⟨p, h, if_neg (Bool.eq_false_iff.mp hjson)⟩⟩

/-- The alias of a call is a name but for its length if its stem has no control characters. -/
theorem isName_defaultAlias (a : AggregateFunction)
    (h : hasControl (Aggregation.stem raw) = false) :
    IsName (Aggregation.defaultAlias { function := a, column := some raw }) := by
  cases a with
  | countAll =>
    have hcount : IsName "count" := ⟨by decide, by decide⟩
    exact hcount
  | _ => exact (AggregateFunction.isName _).append h

/-- Every function is called on a reference that is read. -/
theorem exists_call (h : readPath raw = .ok p) (a : AggregateFunction) :
    ∃ f, Aggregation.call { function := a, column := some raw } = .ok f := by
  cases a with
  | countAll => exact ⟨_, rfl⟩
  | _ =>
    simp only [Aggregation.call, Aggregation.argument, h]
    exact ⟨_, rfl⟩

/-- Whatever reference is read, it is selected without an alias, and every function is applied to it
without one: unless the name of the item, which is the last key of a path or is made of the function
and the reference, is longer than the server reads. A path may have any blanks around its root; a
column by itself is taken here without control characters among them. -/
theorem reference_unlessLong (h : ColumnPath.ofString raw = .ok p) :
    (if p.isJson then UnlessLong p.outputName (selectClause (.selecting raw))
      else ∃ f, selectClause (.selecting raw) = .ok f) ∧
    ((p.isJson = false → hasControl raw = false) → ∀ a,
      UnlessLong (Aggregation.defaultAlias { function := a, column := some raw })
        (selectClause (.applying a raw))) := by
  have hpath : readPath raw = .ok p := by rw [readPath, h]
  constructor
  · rw [selectClause_selecting]
    split
    next hjson =>
      rw [fragment_of_isJson hpath hjson]
      exact ((isName_outputName hpath hjson).unlessLong p.fragment).map _
    next hjson =>
      obtain ⟨f, hf⟩ := exists_fragment hpath (Bool.eq_false_iff.mpr hjson)
      rw [hf]
      exact ⟨_, rfl⟩
  · intro hcontrol a
    have hstem : hasControl (Aggregation.stem raw) = false := by
      cases hjson : p.isJson with
      | true => exact noControl_stem_of_isJson hpath hjson
      | false => exact noControl_stem (hcontrol hjson)
    obtain ⟨f, hf⟩ := exists_call hpath a
    rw [selectClause_applying, Aggregation.fragment, hf]
    exact ((isName_defaultAlias a hstem).unlessLong f).map _

/-- The path `metadata->stats->>count`. -/
def metadataCount : ColumnPath :=
  ⟨⟨"metadata", by decide⟩, [⟨.document, .name "stats"⟩, ⟨.text, .name "count"⟩]⟩

theorem reference_unlessLong_average :
    ColumnPath.ofString "metadata->stats->>count" = .ok metadataCount ∧
      (∃ f, selectClause (.selecting "metadata->stats->>count") = .ok f) ∧
      ∃ f, selectClause (.applying .avg "metadata->stats->>count") = .ok f := by
  have h : ColumnPath.ofString "metadata->stats->>count" = .ok metadataCount := by decide +kernel
  obtain ⟨hselect, happly⟩ := reference_unlessLong h
  have haverage := happly (nomatch ·) .avg
  have hjson : metadataCount.isJson = true := rfl
  rw [if_pos hjson, UnlessLong, if_pos (by decide)] at hselect
  rw [UnlessLong, if_pos (by decide +kernel)] at haverage
  exact ⟨h, hselect, haverage⟩

/-- A path into a document with a last key of 64 bytes. -/
def longReference : String :=
  "data->kkkkkkkkkkkkkkkkkkkkkkkkkkkkkkkkkkkkkkkkkkkkkkkkkkkkkkkkkkkkkkkk"

/-- The reference is read, but neither is it selected without an alias, nor its sum. -/
theorem longReference_refused :
    (∃ p, ColumnPath.ofString longReference = .ok p) ∧ longReference ≠ "*" ∧
      (¬∃ f, selectClause (.selecting longReference) = .ok f) ∧
      ¬∃ f, selectClause (.applying .sum longReference) = .ok f := by
  refine ⟨exists_eq_ok_iff.mpr ?_, ?_, mt exists_eq_ok_iff.mp ?_, mt exists_eq_ok_iff.mp ?_⟩
  all_goals decide +kernel

end RowGate
