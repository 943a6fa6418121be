import RowGate.Proofs.Outcome
import RowGate.Proofs.Sql.Fragment
import RowGate.Proofs.Text.Cut
import RowGate.Proofs.Text.Digit
import RowGate.Proofs.Text.Trim
import RowGate.Sql.Clause

/-! # References in statements

A reference brings its root into a statement as a quoted identifier, and its keys as string literals
or as numbers.
-/

namespace RowGate

/-- The root of a reference: what stands before its first arrow, trimmed. -/
def rootName (raw : String) : String :=
  String.ofList (Text.trim ((Text.arrowPieces raw.toList).headD []))

/-- What stands behind an arrow `->` or `->>`, once the `->` is cut off. -/
def afterArrow : List Char → List Char
  | '>' :: s => s
  | s => s

def keyTexts (raw : String) : List (List Char) :=
  (Text.arrowPieces raw.toList).tail.map afterArrow

/-- The keys of a reference. -/
def keyNames (raw : String) : List String := (keyTexts raw).map String.ofList

/-- The names that an output column without an alias may take from a path into a document: the last
key as it is, or its number in digits. -/
def defaultLabels (raw : String) : List String :=
  (keyTexts raw).getLast?.toList.flatMap fun s ↦
    String.ofList s :: ((Decimal.readNat? s).map toString).toList

/-- A text that is a name, whatever its length. -/
structure IsName (s : String) : Prop where
  ne_empty : s ≠ ""
  noControl : hasControl s = false

theorem hasControl_eq_false_iff {s : String} :
    hasControl s = false ↔ ∀ c ∈ s.toList, Text.isControl c = false := by
  rw [hasControl, List.any_eq_false]
  simp only [Bool.not_eq_true]

theorem noControl_toString (n : Nat) : hasControl (toString n) = false :=
  hasControl_eq_false_iff.mpr fun c hc ↦
    Text.isControl_of_isDigit (Text.isDigit_of_mem_toString c hc)

/-- A number in digits is a name. -/
theorem isName_toString (n : Nat) : IsName (toString n) := ⟨by simp, noControl_toString n⟩

namespace IsName

/-- A text without control characters behind a name makes it another name. -/
theorem append {s t : String} (h : IsName s) (ht : hasControl t = false) : IsName (s ++ t) := by
  refine ⟨fun hempty ↦ h.ne_empty (String.append_eq_empty_iff.mp hempty).1, ?_⟩
  rw [hasControl, String.toList_append, List.any_append]
  exact Bool.or_eq_false_iff.mpr ⟨h.noControl, ht⟩

/-- A name that is short enough has no fault. -/
theorem nameFault?_eq_none {s : String} (h : IsName s) (hsize : s.utf8ByteSize ≤ maxNameBytes) :
    nameFault? s = none := by
  rw [nameFault?, if_neg h.ne_empty, if_neg (Nat.not_lt.mpr hsize),
    if_neg (Bool.eq_false_iff.mp h.noControl)]

end IsName

/-- A reference that names a column as it stands: it has no arrow, and no blanks around it. -/
structure IsBare (raw : String) : Prop where
  noArrow : ¬Text.arrow <:+: raw.toList
  trimmed : Text.trim raw.toList = raw.toList

/-- A bare reference is its own root. -/
theorem rootName_of_isBare {raw : String} (h : IsBare raw) : rootName raw = raw := by
  rw [rootName, Text.arrowPieces_of_not_infix h.noArrow, List.headD_cons, h.trimmed,
    String.ofList_toList]

/-- The root of a reference has no arrows, and no blanks around it. -/
theorem isBare_rootName (raw : String) : IsBare (rootName raw) := by
  constructor
  · rw [rootName, String.toList_ofList]
    exact fun h ↦ Text.not_infix_arrowPieces_headD _ (h.trans (Text.isInfix_trim _))
  · rw [rootName, String.toList_ofList, Text.trim_trim]

/-- A key is taken as it is, or as the number that it is read as. -/
theorem PathKey.ofText_eq_ok {s : List Char} {k : PathKey} (h : PathKey.ofText s = .ok k) :
    k = .name (String.ofList s) ∨ ∃ n, Decimal.readNat? s = some n ∧ k = .index n := by
  rw [PathKey.ofText] at h
  split at h
  · cases h
  · split at h
    next n hn =>
      obtain ⟨hread, -⟩ := Option.filter_eq_some_iff.mp hn
      exact .inr ⟨n, hread, (Except.ok.inj h).symm⟩
    next =>
      simp only at h
      split at h
      · cases h
      · exact .inl (Except.ok.inj h).symm

/-- A key holds no control characters, neither as it is written nor as it is shown. -/
theorem PathKey.noControl {s : List Char} {k : PathKey} (h : PathKey.ofText s = .ok k) :
    (∀ c ∈ s, Text.isControl c = false) ∧ IsName k.display := by
  rw [PathKey.ofText] at h
  split at h
  · cases h
  next hs =>
    split at h
    next n hn =>
      cases h
      obtain ⟨hread, -⟩ := Option.filter_eq_some_iff.mp hn
      rw [Decimal.readNat?, Option.ite_none_right_eq_some, Bool.and_eq_true, List.all_eq_true]
        at hread
      exact ⟨fun c hc ↦ Text.isControl_of_isDigit (hread.1.2 c hc), isName_toString n⟩
    next =>
      simp only at h
      split at h
      · cases h
      next hcontrol =>
        cases h
        rw [Bool.not_eq_true] at hcontrol
        refine ⟨?_, ?_, hcontrol⟩
        · rw [hasControl_eq_false_iff, String.toList_ofList] at hcontrol
          exact hcontrol
        · exact fun hempty ↦ hs (List.isEmpty_iff.mpr (String.ofList_eq_empty_iff.mp hempty))

/-- The key of a step is read from behind its arrow. -/
theorem PathStep.key_ofText {s : List Char} {step : PathStep} (h : PathStep.ofText s = .ok step) :
    PathKey.ofText (afterArrow s) = .ok step.key := by
  unfold PathStep.ofText at h
  split at h
  next s =>
    obtain ⟨key, hkey, h⟩ := bind_eq_ok_iff.mp h
    cases h
    exact hkey
  next hs =>
    obtain ⟨key, hkey, h⟩ := bind_eq_ok_iff.mp h
    cases h
    have hafter : afterArrow s = s := by
      rw [afterArrow]
      exact hs
    rw [hafter]
    exact hkey

/-- A path that is read has the root and the keys of its reference. -/
theorem readPath_eq_ok {raw : String} {p : ColumnPath} (h : readPath raw = .ok p) :
    p.column.name = rootName raw ∧
      List.Forall₂ (fun s step ↦ PathKey.ofText s = .ok step.key) (keyTexts raw) p.steps := by
  rw [readPath] at h
  split at h
  next p' hp =>
    cases h
    rw [ColumnPath.ofString, ColumnPath.ofText] at hp
    rw [rootName, keyTexts]
    split at hp
    next => cases hp
    next root steps hpieces =>
      obtain ⟨column, hcolumn, hp⟩ := bind_eq_ok_iff.mp hp
      obtain ⟨steps', hsteps, hp⟩ := bind_eq_ok_iff.mp hp
      cases hp
      rw [hpieces]
      refine ⟨Identifier.ofString_eq_ok_iff.mp hcolumn, ?_⟩
      rw [List.tail_cons, List.forall₂_map_left_iff]
      exact (mapM_eq_ok_iff.mp hsteps).imp fun _ _ hstep ↦ PathStep.key_ofText hstep
  next => cases h

/-- The name of a column is read as a path without keys. -/
theorem readPath_of_isBare {i : Identifier} (h : IsBare i.name) :
    readPath i.name = .ok ⟨i, []⟩ := by
  have hcolumn : Identifier.ofString (String.ofList (Text.trim i.name.toList)) = .ok i := by
    rw [h.trimmed, String.ofList_toList]
    exact Identifier.ofString_eq_ok_iff.mpr rfl
  have hpath : ColumnPath.ofString i.name = .ok ⟨i, []⟩ := by
    rw [ColumnPath.ofString, ColumnPath.ofText, Text.arrowPieces_of_not_infix h.noArrow]
    exact bind_eq_ok_iff.mpr ⟨i, hcolumn, rfl⟩
  rw [readPath, hpath]

/-- A reference that passes is a path whose root is a column. -/
theorem TableInfo.checkColumn_eq_ok_iff {info : TableInfo} {raw : String} :
    info.checkColumn raw = .ok () ↔
      (∃ p, readPath raw = .ok p) ∧ info.hasColumn (rootName raw) = true := by
  cases hread : ColumnPath.ofString raw with
  | error e => simp [checkColumn, readPath, hread]
  | ok p =>
    have hpath : readPath raw = .ok p := by rw [readPath, hread]
    rw [checkColumn, hread, hpath, ← (readPath_eq_ok hpath).1]
    simp

/-- With a reference passes its root. -/
theorem TableInfo.checkColumn_rootName {info : TableInfo} {raw : String}
    (h : info.checkColumn raw = .ok ()) : info.checkColumn (rootName raw) = .ok () := by
  obtain ⟨⟨p, hp⟩, hroot⟩ := checkColumn_eq_ok_iff.mp h
  have hname : p.column.name = rootName raw := (readPath_eq_ok hp).1
  have hbare : IsBare p.column.name := hname ▸ isBare_rootName raw
  rw [← hname] at hroot ⊢
  refine checkColumn_eq_ok_iff.mpr ⟨⟨_, readPath_of_isBare hbare⟩, ?_⟩
  rwa [rootName_of_isBare hbare]

/-- The last step of a path is that of the last key of its reference. -/
theorem exists_last_key {raw : String} {p : ColumnPath} (h : readPath raw = .ok p)
    (hjson : p.isJson = true) : ∃ s step, (keyTexts raw).getLast? = some s ∧
      p.steps.getLast? = some step ∧ PathKey.ofText s = .ok step.key := by
  have hne : p.steps ≠ [] := by simpa [ColumnPath.isJson] using hjson
  have hlast := List.getLast?_eq_some_getLast hne
  obtain ⟨s, hs, hkey⟩ := exists_getLast?_of_forall₂ (readPath_eq_ok h).2 hlast
  exact ⟨s, _, hs, hlast, hkey⟩

/-- The name that a path suggests is one of the names that its reference does. -/
theorem outputName_mem {raw : String} {p : ColumnPath} (h : readPath raw = .ok p)
    (hjson : p.isJson = true) : p.outputName ∈ defaultLabels raw := by
  obtain ⟨s, step, hs, hlast, hkey⟩ := exists_last_key h hjson
  rw [ColumnPath.outputName, hlast, defaultLabels, hs, Option.toList_some, List.flatMap_singleton]
  rcases PathKey.ofText_eq_ok hkey with hname | ⟨n, hn, hindex⟩
  · simp only [hname, PathKey.display]
    exact List.mem_cons_self
  · simp only [hindex, PathKey.display, hn]
    exact List.mem_cons_of_mem _ List.mem_cons_self

/-! ## Paths -/

namespace Vocabulary

def HasReference (V : Vocabulary) (raw : String) : Prop :=
  rootName raw ∈ V.names ∧ ∀ s ∈ keyNames raw, s ∈ V.literals

end Vocabulary

section

variable {V : Vocabulary} {raw : String}

/-- An operator may follow a name, a literal or a number. -/
theorem fits_accessor (a : Accessor) : Fits V .settled .ground [.fixed a.sql] := by
  cases a
  · exact Fits.fixed (by decide)
  · exact Fits.fixed (by decide)

/-- A key is written as a literal, or as a number where it is one. -/
theorem fits_key {s : List Char} {k : PathKey} (h : PathKey.ofText s = .ok k)
    (hs : String.ofList s ∈ V.literals) : Fits V .ground .settled [k.piece] := by
  rcases PathKey.ofText_eq_ok h with rfl | ⟨n, -, rfl⟩
  · exact (Fits.key hs).mono rfl rfl
  · exact Fits.number n

/-- The steps of a path follow one another, as each ends in a literal or a number. -/
theorem fits_steps {keys : List (List Char)} {steps : List PathStep}
    (h : List.Forall₂ (fun s step ↦ PathKey.ofText s = .ok step.key) keys steps)
    (hV : ∀ s ∈ keys, String.ofList s ∈ V.literals) :
    Fits V .settled .settled
      (steps.flatMap fun step ↦ [.fixed step.accessor.sql, step.key.piece]) := by
  induction h with
  | nil => exact Fits.nil rfl
  | @cons s step _ _ hkey _ ih =>
    have hstep : Fits V .settled .settled ([.fixed step.accessor.sql] ++ [step.key.piece]) :=
      (fits_accessor step.accessor).append (fits_key hkey (hV s List.mem_cons_self))
    exact hstep.append (ih fun t ht ↦ hV t (List.mem_cons_of_mem s ht))

/-- A path is its quoted root with its steps behind it. -/
theorem fits_path {p : ColumnPath} (h : readPath raw = .ok p) (hV : V.HasReference raw) :
    Fits V .free .settled p.fragment := by
  obtain ⟨hroot, hsteps⟩ := readPath_eq_ok h
  have hname : Fits V .free .settled [.name p.column] :=
    (Fits.name (hroot ▸ hV.1)).mono rfl rfl
  exact hname.append (fits_steps hsteps fun s hs ↦ hV.2 _ (List.mem_map_of_mem hs))

/-- A name that is read is a quoted name of the vocabulary. -/
theorem fits_readName {i : Identifier} (h : readName raw = .ok i) (hV : raw ∈ V.names) :
    Fits V .free .behindQuote [.name i] := by
  rw [readName] at h
  split at h
  next j hj =>
    cases h
    exact Fits.name (Identifier.ofString_eq_ok_iff.mp hj ▸ hV)
  next => cases h

end

end RowGate
