import RowGate.Proofs.Sql.Reading

/-! # The columns that are written to

An INSERT and an UPDATE quote the columns of a row as they are given. The metadata is asked for the
roots of the same texts, read as references.
-/

namespace RowGate

open Sql (Token IsClause Unbroken leveled members textTokens)

/-! ## Reading the columns of a change -/

namespace Sql

/-- What a quoted identifier stands for. -/
def Token.name? : Token → Option String
  | quoted .name s => some (String.ofList s)
  | _ => none

/-- The quoted identifiers from left to right. -/
def quotedNames (ts : List Token) : List String := ts.filterMap Token.name?

/-- The column list of an INSERT, which has the first parentheses of the text. -/
def insertedNames (ts : List Token) : List String :=
  quotedNames ((ts.dropWhile fun tok ↦ tok ≠ .mark '(').takeWhile fun tok ↦ tok ≠ .mark ')')

/-- The left sides of the assignments of an UPDATE. -/
def assignedNames (ts : List Token) : List String :=
  let target := clause "update" ["set", "where", "returning"] (leveled 0 ts)
  let assignments := clause "set" ["where", "returning"] target.2
  quotedNames ((members assignments.1).flatMap fun xs ↦
    unleveled (xs.takeWhile fun y ↦ y.1 ≠ .lexeme .operator ['=']))

theorem quotedNames_append (ts us : List Token) :
    quotedNames (ts ++ us) = quotedNames ts ++ quotedNames us := List.filterMap_append

/-- A quoted name is read as what it stands for. -/
theorem quotedNames_name (s : String) : quotedNames [.quoted .name s.toList] = [s] := by
  simp [quotedNames, Token.name?]

/-- The commas of a list are no names. -/
theorem quotedNames_intercalate (tss : List (List Token)) :
    quotedNames ([.mark ','].intercalate tss) = tss.flatMap quotedNames := by
  induction tss with
  | nil => rfl
  | cons ts tss ih =>
    cases tss with
    | nil => rw [List.intercalate_singleton, List.flatMap_singleton]
    | cons us tss =>
      rw [List.intercalate_cons_cons, List.append_assoc, quotedNames_append, quotedNames_append, ih]
      rfl

theorem forall_mem_intercalate {P : Token → Prop} (hcomma : P (.mark ',')) {tss : List (List Token)}
    (h : ∀ ts ∈ tss, ∀ tok ∈ ts, P tok) : ∀ tok ∈ [.mark ','].intercalate tss, P tok := by
  induction tss with
  | nil => exact fun _ htok ↦ nomatch htok
  | cons ts tss ih =>
    obtain ⟨hts, htss⟩ := List.forall_mem_cons.mp h
    cases tss with
    | nil =>
      rw [List.intercalate_singleton]
      exact hts
    | cons us tss =>
      rw [List.intercalate_cons_cons, List.append_assoc]
      exact List.forall_mem_append.mpr ⟨hts, List.forall_mem_cons.mpr ⟨hcomma, ih htss⟩⟩

/-- The first parentheses are read from the one that opens them to the one that closes them. -/
theorem insertedNames_append {head body rest : List Token}
    (hhead : ∀ tok ∈ head, tok ≠ .mark '(') (hbody : ∀ tok ∈ body, tok ≠ .mark ')') :
    insertedNames (head ++ .mark '(' :: (body ++ .mark ')' :: rest)) = quotedNames body := by
  have hopen : (head ++ .mark '(' :: (body ++ .mark ')' :: rest)).dropWhile
      (fun tok ↦ tok ≠ .mark '(') = .mark '(' :: (body ++ .mark ')' :: rest) := by
    rw [List.dropWhile_append_of_pos fun tok htok ↦ decide_eq_true (hhead tok htok)]
    rfl
  have hclose : (body ++ .mark ')' :: rest).takeWhile (fun tok ↦ tok ≠ .mark ')') = body := by
    rw [List.takeWhile_append_of_pos fun tok htok ↦ decide_eq_true (hbody tok htok),
      List.takeWhile_cons_of_neg (by simp), List.append_nil]
  rw [insertedNames, hopen, List.takeWhile_cons_of_pos (by decide), hclose]
  rfl

/-- Without parentheses there is no column list. -/
theorem insertedNames_of_forall {ts : List Token} (h : ∀ tok ∈ ts, tok ≠ .mark '(') :
    insertedNames ts = [] := by
  rw [insertedNames, List.dropWhile_eq_nil_iff.mpr fun tok htok ↦ decide_eq_true (h tok htok)]
  rfl

end Sql

variable {t : Target} {row : List (String × SqlValue)} {fs : List Filter} {f : Fragment}

/-! ## INSERT -/

/-- No table is written with a parenthesis. -/
theorem ne_open_of_mem_table (h : t.fragment = .ok f) : ∀ tok ∈ f.tokens 0, tok ≠ .mark '(' := by
  rcases Target.fragment_cases h with ⟨i, rfl⟩ | ⟨s, i, rfl⟩
  · exact List.forall_mem_singleton.mpr fun h ↦ nomatch h
  · have htokens : Fragment.tokens 0 [.name s, .fixed ".", .name i] =
        [.quoted .name s.name.toList, .mark '.', .quoted .name i.name.toList] := rfl
    rw [htokens]
    simp

/-- The names of a row that are read are written as they are. -/
theorem map_name_of_mapM {names : List Identifier}
    (h : (row.mapM fun p ↦ readName p.1) = .ok names) :
    names.map Identifier.name = row.map (·.1) := by
  replace h := mapM_eq_ok_iff.mp h
  induction h with
  | nil => rfl
  | cons hname _ ih => rw [List.map_cons, List.map_cons, ih, readName_eq_ok_iff.mp hname]

/-- The column list has one quoted name for each column. -/
theorem tokens_nameList (names : List Identifier) :
    (Fragment.join ", " (names.map fun i ↦ [Piece.name i])).tokens 0 =
      [.mark ','].intercalate (names.map fun i ↦ [.quoted .name i.name.toList]) := by
  rw [Fragment.tokens_join, List.map_map]
  · rfl
  · intro g hg
    obtain ⟨i, -, rfl⟩ := List.mem_map.mp hg
    rfl

/-- The tokens of an INSERT, cut at the parentheses around its column list. -/
theorem tokens_insertText (t : Target) (row : List (String × SqlValue)) {table : Fragment}
    (htable : table.values = []) (names : List Identifier) :
    (t.insertText row table names).tokens 0 =
      (textTokens "INSERT INTO ".toList ++ table.tokens 0) ++ .mark '(' ::
        ((Fragment.join ", " (names.map fun i ↦ [Piece.name i])).tokens 0 ++ .mark ')' ::
          ([.lexeme .word "VALUES".toList, .mark '('] ++
            Fragment.tokens 0 (Fragment.join ", "
              (row.map fun p ↦ [Piece.bound p.2 (t.columnType? p.1)]) ++
                [.fixed ") RETURNING *"]))) := by
  have hopen : textTokens " (".toList = [.mark '('] := by decide
  have hclose : textTokens ") VALUES (".toList =
      [.mark ')', .lexeme .word "VALUES".toList, .mark '('] := by decide
  simp only [Target.insertText, List.append_assoc, List.cons_append, Fragment.tokens_fixed,
    Fragment.tokens_append, htable, Target.values_names, hopen, hclose, List.length_nil,
    Nat.add_zero, List.nil_append]

/-- An INSERT lists the columns of its row as they are given. -/
theorem insertedNames_insertFragment (h : t.insertFragment row = .ok f) :
    Sql.insertedNames (f.tokens 0) = row.map (·.1) := by
  obtain ⟨table, htable, h⟩ := Target.insertFragment_eq_ok_iff.mp h
  have hvalues : table.values = [] := Target.values_fragment htable
  have hinsert : ∀ tok ∈ textTokens "INSERT INTO ".toList, tok ≠ .mark '(' := by decide
  have hhead : ∀ tok ∈ textTokens "INSERT INTO ".toList ++ table.tokens 0, tok ≠ .mark '(' :=
    List.forall_mem_append.mpr ⟨hinsert, ne_open_of_mem_table htable⟩
  split at h
  next hrow =>
    have hdefaults : ∀ tok ∈ textTokens " DEFAULT VALUES RETURNING *".toList, tok ≠ .mark '(' := by
      decide
    rw [h, List.isEmpty_iff.mp hrow, Fragment.tokens_append, Fragment.tokens_fixed]
    refine Sql.insertedNames_of_forall (List.forall_mem_append.mpr ⟨hhead, fun tok htok ↦ ?_⟩)
    rw [Fragment.tokens_fixed] at htok
    exact hdefaults tok (by simpa [Fragment.tokens] using htok)
  next hrow =>
    obtain ⟨-, names, hnames, rfl⟩ := h
    have hcolumns := tokens_nameList names
    have htokens := tokens_insertText t row hvalues names
    have hclose : ∀ tok ∈ [.mark ','].intercalate
        (names.map fun i ↦ [Token.quoted .name i.name.toList]), tok ≠ .mark ')' := by
      refine Sql.forall_mem_intercalate (by decide) fun ts hts ↦ ?_
      obtain ⟨i, -, rfl⟩ := List.mem_map.mp hts
      simp
    rw [htokens, hcolumns, Sql.insertedNames_append hhead hclose, Sql.quotedNames_intercalate,
      ← map_name_of_mapM hnames, List.flatMap_map, List.map_eq_flatMap]
    simp only [Sql.quotedNames_name]

/-! ## UPDATE -/

/-- The tokens of an assignment, with some text for its placeholder. -/
def IsAssignment (p : String × SqlValue) (ts : List Token) : Prop :=
  ∃ s, ts = [.quoted .name p.1.toList, .lexeme .operator ['='], .lexeme .placeholder s]

/-- An assignment is written as a name, the mark of equality and a placeholder. -/
theorem units_assignment {p : String × SqlValue} (h : t.assignment p = .ok f) (k : Nat) :
    IsAssignment p (f.units k) := by
  obtain ⟨i, hi, rfl⟩ := Target.assignment_eq_ok_iff.mp h
  refine ⟨(placeholder (k + 1) p.2 (t.columnType? p.1)).toList, ?_⟩
  rw [← readName_eq_ok_iff.mp hi]
  rfl

/-- The assignments of a row are written with commas between them. -/
theorem units_assignments {assignments : List Fragment}
    (h : row.mapM t.assignment = .ok assignments) (k : Nat) :
    ∃ tss, (Fragment.join ", " assignments).units k = [.mark ','].intercalate tss ∧
      List.Forall₂ IsAssignment row tss := by
  replace h := mapM_eq_ok_iff.mp h
  induction h generalizing k with
  | nil => exact ⟨[], rfl, .nil⟩
  | @cons p f row fs hp hrow ih =>
    cases hrow with
    | nil =>
      refine ⟨[f.units k], ?_, .cons (units_assignment hp k) .nil⟩
      rw [Fragment.join, List.intercalate_singleton, List.intercalate_singleton]
    | @cons q g row gs hq hrow =>
      obtain ⟨tss, htss, hassign⟩ := ih (k + f.values.length)
      obtain ⟨ts, tss, hts, hrest, rfl⟩ := List.forall₂_cons_left_iff.mp hassign
      refine ⟨f.units k :: ts :: tss, ?_, .cons (units_assignment hp k) (.cons hts hrest)⟩
      have hcons : Fragment.join ", " (f :: g :: gs) =
          f ++ (.fixed ", " :: Fragment.join ", " (g :: gs)) := by
        simp [Fragment.join, List.intercalate_cons_cons]
      rw [hcons, Fragment.units_append, Fragment.units_fixed, htss, List.intercalate_cons_cons,
        List.append_assoc]
      rfl

/-- An assignment has no parentheses, and no words that end a clause. -/
theorem IsAssignment.unbroken {p : String × SqlValue} {ts : List Token} (h : IsAssignment p ts)
    (stops : List String) : Unbroken stops ts := by
  obtain ⟨s, rfl⟩ := h
  exact (Sql.Within.of_all rfl).unbroken

/-- The left sides of assignments are the columns of the row. -/
theorem quotedNames_leftSides {tss : List (List Token)} (h : List.Forall₂ IsAssignment row tss) :
    Sql.quotedNames ((tss.map (leveled 0)).flatMap fun xs ↦
      Sql.unleveled (xs.takeWhile fun y ↦ y.1 ≠ .lexeme .operator ['='])) = row.map (·.1) := by
  induction h with
  | nil => rfl
  | cons hp _ ih =>
    obtain ⟨s, rfl⟩ := hp
    rw [List.map_cons, List.flatMap_cons, Sql.quotedNames_append, ih, List.map_cons]
    exact congrArg (· ++ _) (Sql.quotedNames_name _)

/-- The table stands between `UPDATE` and `SET`. -/
theorem isClause_update {table : Fragment} (h : t.fragment = .ok table) :
    IsClause "update" ["set", "where", "returning"]
      (.lexeme .word "UPDATE".toList :: table.tokens 0) (table.tokens 0) := by
  have hwithin : table.Within ["set", "where", "returning"] := .table_of_point (by decide) h
  exact .present (by decide) (hwithin.tokens (Target.values_fragment h)).unbroken

/-- The assignments stand between `SET` and the condition. -/
theorem isClause_set {assignments : List Fragment} (h : row.mapM t.assignment = .ok assignments) :
    IsClause "set" ["where", "returning"]
      (.lexeme .word "SET".toList :: (Fragment.join ", " assignments).units 0)
      ((Fragment.join ", " assignments).units 0) := by
  have hwithin : (Fragment.join ", " assignments).Within ["where", "returning"] := by
    refine .join (by decide) fun f hf ↦ ?_
    obtain ⟨p, -, hp⟩ := exists_of_mem_mapM h hf
    obtain ⟨i, -, rfl⟩ := Target.assignment_eq_ok_iff.mp hp
    exact (Fragment.Within.name i).append ((Fragment.Within.fixed (by decide)).append (.bound _ _))
  exact .present (by decide) (hwithin 0).unbroken

/-- Behind its assignments an UPDATE has its condition or is at its end. -/
theorem begins_condition {condition : Fragment} (h : whereClause t.info fs = .ok condition)
    (k : Nat) : Sql.Begins ["where", "returning"]
      (leveled 0 (Fragment.units k (condition ++ [.fixed " RETURNING *"]))) := by
  obtain ⟨found, -, h⟩ := bind_eq_ok_iff.mp h
  cases found with
  | none =>
    cases h
    intro x hx
    obtain rfl := Option.some.inj hx
    decide
  | some g =>
    cases h
    intro x hx
    obtain rfl := Option.some.inj hx
    decide

/-- The tokens of an UPDATE, cut at its clauses. -/
theorem units_updateText {table : Fragment} (htable : table.values = [])
    (assignments : List Fragment) (condition : Fragment) :
    (Target.updateText assignments table condition).units 0 =
      (.lexeme .word "UPDATE".toList :: table.tokens 0) ++
        ((.lexeme .word "SET".toList :: (Fragment.join ", " assignments).units 0) ++
          Fragment.units (Fragment.join ", " assignments).values.length
            (condition ++ [.fixed " RETURNING *"])) := by
  have hupdate : textTokens "UPDATE ".toList = [.lexeme .word "UPDATE".toList] := by decide
  have hset : textTokens " SET ".toList = [.lexeme .word "SET".toList] := by decide
  rw [Target.updateText]
  simp only [List.append_assoc, List.cons_append, Fragment.units_fixed, hupdate, hset,
    Fragment.units_append_left htable, List.nil_append]
  rw [Fragment.units_append, Nat.zero_add]

/-- An UPDATE assigns to the columns of its row as they are given. -/
theorem assignedNames_updateFragment (h : t.updateFragment row fs = .ok f) :
    Sql.assignedNames (f.units 0) = row.map (·.1) := by
  obtain ⟨hrow, -, -, assignments, hassignments, table, htable, condition, hcondition, rfl⟩ :=
    Target.updateFragment_eq_ok_iff.mp h
  have hvalues := Target.values_fragment htable
  obtain ⟨tss, htss, hassign⟩ := units_assignments hassignments 0
  have hne : tss ≠ [] := by
    rintro rfl
    exact hrow (List.forall₂_nil_right_iff.mp hassign)
  have hmembers : members (leveled 0 ((Fragment.join ", " assignments).units 0)) =
      tss.map (leveled 0) := by
    rw [htss]
    refine Sql.members_intercalate hne fun ts hts ↦ ?_
    obtain ⟨p, hp⟩ := exists_of_forall₂ hassign.flip hts
    exact IsAssignment.unbroken hp [","]
  obtain ⟨hset, hbegins⟩ := (isClause_set hassignments).clause_append (by decide)
    (begins_condition hcondition (Fragment.join ", " assignments).values.length)
  have hupdate := (isClause_update htable).clause_append (by decide) hbegins
  rw [units_updateText hvalues, Sql.assignedNames, hupdate.1, hset, hmembers]
  exact quotedNames_leftSides hassign

/-! ## What the metadata says of them -/

/-- A column is known if the metadata lists it under its name. -/
theorem TableInfo.hasColumn_iff {info : TableInfo} {name : String} :
    info.hasColumn name = true ↔ ∃ c ∈ info.columns, c.name = name := by
  simp [hasColumn, column?]

/-- What a check says of a written column: its root is a column of the table. The column itself is
one if it is its own root, and else only if the table has a column that is spelled like a path. -/
structure TableInfo.Admits (info : TableInfo) (name : String) : Prop where
  root : info.hasColumn (rootName name) = true
  named : info.hasColumn name = true ↔
    IsBare name ∨ ∃ c ∈ info.columns, c.name = name ∧ ¬IsBare name

/-- A check looks for the root of a name, and so knows the name itself if it is bare. -/
theorem TableInfo.admits_of_checkColumn {info : TableInfo} {name : String}
    (h : info.checkColumn name = .ok ()) : info.Admits name := by
  have hroot : info.hasColumn (rootName name) = true := (checkColumn_eq_ok_iff.mp h).2
  refine ⟨hroot, fun hname ↦ ?_, ?_⟩
  · obtain ⟨c, hc, hcolumn⟩ := hasColumn_iff.mp hname
    by_cases hbare : IsBare name
    · exact .inl hbare
    · exact .inr ⟨c, hc, hcolumn, hbare⟩
  · rintro (hbare | ⟨c, hc, hcolumn, -⟩)
    · rwa [rootName_of_isBare hbare] at hroot
    · exact hasColumn_iff.mpr ⟨c, hc, hcolumn⟩

/-- With metadata, an INSERT and an UPDATE write the columns of their row as they are given, and of
each of them the root is a column of the table. -/
theorem written_columns_admitted {t : Target} {info : TableInfo} (hinfo : t.info = some info)
    (row : List (String × SqlValue)) (fs : List Filter) :
    (∀ s, t.insert row = .ok s → ∃ ts, Sql.tokens s.sql = some ts ∧
      Sql.insertedNames ts = row.map (·.1) ∧ ∀ name ∈ Sql.insertedNames ts, info.Admits name) ∧
    ∀ s, t.update row fs = .ok s → ∃ f, t.updateFragment row fs = .ok f ∧ f.statement = s ∧
      Sql.assignedNames (f.units 0) = row.map (·.1) ∧
      ∀ name ∈ Sql.assignedNames (f.units 0), info.Admits name := by
  have hadmits {columns : List String} (h : t.checkColumns columns = .ok ()) :
      ∀ name ∈ columns, info.Admits name := fun name hname ↦
    TableInfo.admits_of_checkColumn (Target.checkColumns_eq_ok_iff.mp h info hinfo name hname)
  constructor
  · intro s hs
    obtain ⟨f, hf, rfl, htokens⟩ := tokens_sql (r := .insert row) hs
    have hnames := insertedNames_insertFragment hf
    refine ⟨f.tokens 0, htokens, hnames, fun name hname ↦ ?_⟩
    rw [hnames] at hname
    obtain ⟨_, _, hwritten⟩ := Target.insertFragment_eq_ok_iff.mp hf
    split at hwritten
    next hrow =>
      rw [List.isEmpty_iff.mp hrow] at hname
      cases hname
    next => exact hadmits hwritten.1 name hname
  · intro s hs
    obtain ⟨f, hf, rfl⟩ := map_eq_ok_iff.mp hs
    have hnames := assignedNames_updateFragment hf
    refine ⟨f, hf, rfl, hnames, fun name hname ↦ ?_⟩
    rw [hnames] at hname
    obtain ⟨-, -, hcolumns, -⟩ := Target.updateFragment_eq_ok_iff.mp hf
    exact hadmits (Target.checkColumns_append_eq_ok_iff.mp hcolumns).1 name hname

def typedInfo : TableInfo where
  schema := "public"
  name := "t"
  columns := [.ofType "a" "integer", .ofType "b" "text", .ofType "c" "jsonb"]

def typedInsertion : Statement where
  sql := "INSERT INTO \"t\" (\"a\", \"c\") VALUES ($1::integer, $2::jsonb) RETURNING *"
  params := [.integer 7, .text "x"]

theorem written_columns_admitted_typed :
    typedTarget.info = some typedInfo ∧
    (typedTarget.insert [("a", .integer 7), ("c", .text "x")] = .ok typedInsertion ∧
      ∃ ts, Sql.tokens typedInsertion.sql = some ts ∧ Sql.insertedNames ts = ["a", "c"] ∧
        ∀ name ∈ Sql.insertedNames ts, typedInfo.Admits name) ∧
    typedTarget.update [("a", .integer 7)] mixedFilters = .ok typedStatement ∧
      ∃ f, typedTarget.updateFragment [("a", .integer 7)] mixedFilters = .ok f ∧
        f.statement = typedStatement ∧ Sql.assignedNames (f.units 0) = ["a"] ∧
        ∀ name ∈ Sql.assignedNames (f.units 0), typedInfo.Admits name := by
  have hinfo : typedTarget.info = some typedInfo := rfl
  have hinsert : typedTarget.insert [("a", .integer 7), ("c", .text "x")] = .ok typedInsertion := by
    decide +kernel
  have hupdate : typedTarget.update [("a", .integer 7)] mixedFilters = .ok typedStatement := by
    decide +kernel
  refine ⟨hinfo, ⟨hinsert, ?_⟩, hupdate, ?_⟩
  · exact (written_columns_admitted hinfo _ mixedFilters).1 _ hinsert
  · exact (written_columns_admitted hinfo _ mixedFilters).2 _ hupdate

/-- A table with one column, which holds documents. -/
def docsInfo : TableInfo where
  schema := "public"
  name := "docs"
  columns := [.ofType "data" "jsonb"]

def docsTarget : Target := { table := "docs", info := some docsInfo }

/-- A path and a column between blanks pass for the column, and are written as they are. -/
theorem written_columns_not_known :
    (docsTarget.insert [("data->a", .text "x")] =
        .ok ⟨"INSERT INTO \"docs\" (\"data->a\") VALUES ($1) RETURNING *", [.text "x"]⟩ ∧
      (Sql.tokens "INSERT INTO \"docs\" (\"data->a\") VALUES ($1) RETURNING *").map
        Sql.insertedNames = some ["data->a"] ∧
      docsInfo.hasColumn "data->a" = false) ∧
    docsTarget.update [(" data ", .text "x")] [] =
        .ok ⟨"UPDATE \"docs\" SET \" data \" = $1 RETURNING *", [.text "x"]⟩ ∧
      (Sql.tokens "UPDATE \"docs\" SET \" data \" = $1 RETURNING *").map
        Sql.assignedNames = some [" data "] ∧
      docsInfo.hasColumn " data " = false := by
  refine ⟨⟨?_, ?_, ?_⟩, ?_, ?_, ?_⟩ <;> decide +kernel

end RowGate
