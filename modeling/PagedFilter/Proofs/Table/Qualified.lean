import PagedFilter.Proofs.StableSort
import PagedFilter.Proofs.Table.Columns
import PagedFilter.Proofs.Table.Mapped
import PagedFilter.Proofs.Table.Vanishing
import PagedFilter.Proofs.Table.Written

/-!
Columns qualified by the name of a table. A qualified name is cut at its first point, so a name of one
part is seen through, and the clauses and orders of a query are those on the columns themselves. A name
that has a point itself leaves a part of it on the column, and no cell is found.
-/

namespace PagedFilter.Table

/-! ### Qualified names -/

/-- A column behind the name of a table, unless it has a point already. -/
def qualify (name column : String) : String :=
  if column.toList.contains '.' then column else name ++ "." ++ column

theorem qualify_of_mem (name : String) {column : String} (h : '.' ∈ column.toList) :
    qualify name column = column := by
  rw [qualify, if_pos (List.contains_iff_mem.2 h)]

theorem qualify_of_not_mem (name : String) {column : String} (h : '.' ∉ column.toList) :
    qualify name column = name ++ "." ++ column := by
  rw [qualify, if_neg (mt List.contains_iff_mem.1 h)]

theorem Context.qualifiedName_some {ctx : Context} (hctx : ctx.table = none) (field name : String) :
    ctx.qualifiedName field (some name) = qualify name (ctx.columnName field) := by
  rw [qualifiedName, hctx]
  rfl

theorem Context.qualifiedName_none {ctx : Context} (hctx : ctx.table = none) (field : String) :
    ctx.qualifiedName field none = ctx.columnName field := by
  rw [qualifiedName, hctx]
  rfl

theorem resolve_nil (column : String) : resolve [] column = none := by
  cases h : Text.divide? '.' column.toList <;> simp [resolve, h, Fields.find?]

/-- Behind a name with a point, a column finds no cell. -/
theorem resolve_qualify_eq_none {row : Row} (hrow : row.IsFlat) {name : String}
    (hname : '.' ∈ name.toList) {column : String} (hcolumn : '.' ∉ column.toList) :
    resolve row (qualify name column) = none := by
  obtain ⟨head, rest, hhead, rfl⟩ := exists_eq_append_of_mem hname
  have hcut : qualify (head ++ "." ++ rest) column = head ++ "." ++ (rest ++ "." ++ column) := by
    rw [qualify_of_not_mem _ hcolumn, ← String.toList_inj]
    simp
  rw [hcut, resolve_append row hhead, hrow.find?_eq_none (mem_append_point _ _),
    hrow.find?_eq_none (mem_append_point _ _), Option.none_or]

theorem resolve_qualify {row : Row} (hrow : row.IsFlat) {name column : String}
    (h : '.' ∈ name.toList → '.' ∈ column.toList) :
    resolve row (qualify name column) = resolve row column := by
  by_cases hcolumn : '.' ∈ column.toList
  · rw [qualify_of_mem name hcolumn]
  · rw [qualify_of_not_mem name hcolumn, resolve_qualified hrow (mt h hcolumn),
      resolve_of_not_mem row hcolumn]

theorem forall_resolve_qualify_iff (name column : String) :
    (∀ row : Row, row.IsFlat → resolve row (qualify name column) = resolve row column) ↔
      ('.' ∈ name.toList → '.' ∈ column.toList) := by
  constructor
  · intro hagree hname
    by_contra hcolumn
    -- The row of this one cell tells the two names apart.
    have hflat : Row.IsFlat [(column, .bool true)] := by simpa [Row.IsFlat] using hcolumn
    have hlost := hagree _ hflat
    rw [resolve_qualify_eq_none hflat hname hcolumn, resolve_of_not_mem _ hcolumn] at hlost
    simp [Fields.find?] at hlost
  · intro h row hrow
    exact resolve_qualify hrow h

/-! ### Clauses under other names -/

namespace Clause

mutual

/-- The columns that a clause names. -/
def columns : Clause → List String
  | compare column _ _ | isIn column _ | notIn column _ | isNull column | isNotNull column =>
    [column]
  | never => []
  | group _ clauses => columnsOfList clauses

def columnsOfList : List Clause → List String
  | [] => []
  | c :: rest => columns c ++ columnsOfList rest

end

mutual

theorem columnsOfList_prune? : (c : Clause) → columnsOfList (prune? c).toList = columns c
  | compare _ _ _ | isIn _ _ | notIn _ _ | isNull _ | isNotNull _ | never => by
    simp [prune?, columnsOfList, columns]
  | group joined clauses => by
    have ih := columnsOfList_prune clauses
    rw [columns, ← ih, prune?]
    cases h : prune clauses <;> simp [columnsOfList, columns]

/-- Groups without clauses name no column. -/
theorem columnsOfList_prune : (cs : List Clause) → columnsOfList (prune cs) = columnsOfList cs
  | [] => rfl
  | c :: rest => by
    have happend (as bs : List Clause) :
        columnsOfList (as ++ bs) = columnsOfList as ++ columnsOfList bs := by
      induction as with
      | nil => rfl
      | cons a as ih => rw [List.cons_append, columnsOfList, columnsOfList, ih, List.append_assoc]
    rw [prune, happend, columnsOfList_prune? c, columnsOfList_prune rest, columnsOfList]

end

theorem mapColumnsOfList_eq_map (f : String → String) (cs : List Clause) :
    mapColumnsOfList f cs = cs.map (mapColumns f) := by
  induction cs with
  | nil => rw [mapColumnsOfList, List.map_nil]
  | cons c rest ih => rw [mapColumnsOfList, ih, List.map_cons]

theorem keepsGroups_mapColumns (f : String → String) : KeepsGroups (mapColumns f) where
  never := by rw [mapColumns]
  group joined clauses := by rw [mapColumns, mapColumnsOfList_eq_map]
  atom c h := by
    cases c with
    | group joined clauses => exact absurd rfl (h joined clauses)
    | _ => rw [mapColumns, prune?]; simp

section Evaluate

variable {row other : Row} {f : String → String}

mutual

/-- Clauses are true alike where their columns find the same cells. -/
theorem truth_mapColumns : (c : Clause) →
    (∀ column ∈ c.columns, resolve row (f column) = resolve other column) →
    (c.mapColumns f).truth row = c.truth other
  | compare column _ _, h | isIn column _, h | notIn column _, h | isNull column, h
  | isNotNull column, h => by
    have hcell := h column (by simp [columns])
    simp only [mapColumns, truth, hcell]
  | never, _ => by simp only [mapColumns, truth]
  | group _ clauses, h => by
    rw [mapColumns, truth, truth]
    exact truthOfList_mapColumns clauses (by simpa only [columns] using h)

theorem truthOfList_mapColumns : (cs : List Clause) →
    (∀ column ∈ columnsOfList cs, resolve row (f column) = resolve other column) →
    truthOfList row (mapColumnsOfList f cs) = truthOfList other cs
  | [], _ => by rw [mapColumnsOfList, truthOfList, truthOfList]
  | c :: rest, h => by
    rw [columnsOfList, List.forall_mem_append] at h
    rw [mapColumnsOfList, truthOfList, truthOfList, truth_mapColumns c h.1]
    exact truthFrom_mapColumns _ _ rest h.2

theorem truthFrom_mapColumns (passed present : Truth) : (cs : List Clause) →
    (∀ column ∈ columnsOfList cs, resolve row (f column) = resolve other column) →
    truthFrom row passed present (mapColumnsOfList f cs) = truthFrom other passed present cs
  | [], _ => by rw [mapColumnsOfList, truthFrom, truthFrom]
  | c :: rest, h => by
    rw [columnsOfList, List.forall_mem_append] at h
    rw [mapColumnsOfList, truthFrom, truthFrom, connective_mapColumns, truth_mapColumns c h.1]
    cases c.connective with
    | or => exact truthFrom_mapColumns _ _ rest h.2
    | and => exact truthFrom_mapColumns _ _ rest h.2

end

mutual

theorem fault?_mapColumns : (c : Clause) →
    (∀ column ∈ c.columns, resolve row (f column) = resolve other column) →
    (c.mapColumns f).fault? row = c.fault? other
  | compare column _ _, h => by
    have hcell := h column (by simp [columns])
    simp only [mapColumns, fault?, hcell]
  | isIn _ _, _ | notIn _ _, _ | isNull _, _ | isNotNull _, _ | never, _ => by
    simp only [mapColumns, fault?]
  | group _ clauses, h => by
    rw [mapColumns, fault?, fault?]
    exact faultOfList?_mapColumns clauses (by simpa only [columns] using h)

theorem faultOfList?_mapColumns : (cs : List Clause) →
    (∀ column ∈ columnsOfList cs, resolve row (f column) = resolve other column) →
    faultOfList? row (mapColumnsOfList f cs) = faultOfList? other cs
  | [], _ => by rw [mapColumnsOfList, faultOfList?, faultOfList?]
  | c :: rest, h => by
    rw [columnsOfList, List.forall_mem_append] at h
    rw [mapColumnsOfList, faultOfList?, faultOfList?, fault?_mapColumns c h.1,
      faultOfList?_mapColumns rest h.2]

end

end Evaluate

end Clause

/-! ### Filters under qualified names -/

theorem operatorClause?_mapColumns (f : String → String) (op : Operator) (column : String)
    (operand : Value) : operatorClause? op (f column) operand =
      (operatorClause? op column operand).map (Clause.mapColumns f) := by
  cases op with
  | eq | ne | neq | isNull | isNotNull =>
    simp only [operatorClause?, Option.map_some]
    split <;> simp only [Clause.mapColumns]
  | _ => simp only [operatorClause?, Option.map_some, Option.map_none, Clause.mapColumns]

theorem fieldClauses_mapColumns (f : String → String) (column : String) (v : Value) :
    fieldClauses (f column) v = (fieldClauses column v).map (Clause.mapColumns f) := by
  cases v with
  | map operators =>
    simp only [fieldClauses, operatorClauses, List.map_filterMap, Option.map_bind]
    congr 1
    funext e
    cases Operator.ofName? e.1 with
    | none => rfl
    | some op => exact operatorClause?_mapColumns f op column e.2
  | list items => simp only [fieldClauses, List.map_singleton, Clause.mapColumns]
  | _ =>
    simp only [fieldClauses, operatorClause?_mapColumns]
    rfl

/-- A filter on a named table adds the clauses of its columns, with the columns qualified. -/
theorem filterClauses_qualify {ctx : Context} (hctx : ctx.table = none) (name : String)
    (fields : Fields Value) : filterClauses ctx (some name) fields =
      (filterClauses ctx none fields).map (Clause.mapColumns (qualify name)) := by
  have hkeeps := Clause.keepsGroups_mapColumns (qualify name)
  induction fields using fieldsInductionOn with
  | nil => rfl
  | cons k v rest ihm ih =>
    have hgroup (joined : Connective) : groupClauses ctx (some name) joined v =
        (groupClauses ctx none joined v).map (Clause.mapColumns (qualify name)) := by
      have hmembers : (groupMembers v).map (filterClauses ctx (some name)) =
          ((groupMembers v).map (filterClauses ctx none)).map
            (List.map (Clause.mapColumns (qualify name))) := by
        rw [List.map_map]
        exact List.map_congr_left ihm
      rw [groupClauses_eq_closeGroup, groupClauses_eq_closeGroup, hkeeps.map_closeGroup,
        hkeeps.map_joinMembers, hmembers]
    rw [filterClauses_cons, filterClauses_cons, List.map_append, ih]
    congr 1
    rw [entryClauses, entryClauses]
    cases Logical.ofKey? k with
    | none =>
      simp only [Context.qualifiedName_some hctx, Context.qualifiedName_none hctx]
      exact fieldClauses_mapColumns (qualify name) (ctx.columnName k) v
    | some g =>
      cases g with
      | and => exact hgroup .and
      | or => exact hgroup .or
      | nor => rfl

/-- The query of a filter on a table, whose name qualifies the columns. -/
def qualifiedQuery (ctx : Context) (name : String) (t : Value) : Query :=
  (Query.ofTable name).filter (compile ctx (some name) t)

/-- The query of a filter on a table, with the columns as they are. -/
def plainQuery (ctx : Context) (name : String) (t : Value) : Query :=
  (Query.ofTable name).filter (compile ctx none t)

theorem columns_plainQuery (ctx : Context) (name : String) (t : Value) :
    Clause.columnsOfList (plainQuery ctx name t).clauses =
      Clause.columnsOfList (compile ctx none t) := by
  rw [plainQuery, Query.filter, Query.ofTable, List.nil_append, Clause.columnsOfList_prune]

section Queries

variable {ctx : Context} (hctx : ctx.table = none) {name : String} {t : Value}
include hctx

theorem clauses_qualifiedQuery : (qualifiedQuery ctx name t).clauses =
    Clause.mapColumnsOfList (qualify name) (plainQuery ctx name t).clauses := by
  have hcompile : compile ctx (some name) t =
      (compile ctx none t).map (Clause.mapColumns (qualify name)) := by
    cases t with
    | map fields => exact filterClauses_qualify hctx name fields
    | _ => rfl
  simp only [qualifiedQuery, plainQuery, Query.filter, Query.ofTable, List.nil_append,
    Clause.mapColumnsOfList_eq_map]
  rw [hcompile, (Clause.keepsGroups_mapColumns _).prune_map]

variable {row other : Row} (h : ∀ column ∈ Clause.columnsOfList (compile ctx none t),
  resolve row (qualify name column) = resolve other column)
include h

theorem faultOfList?_qualifiedQuery : Clause.faultOfList? row (qualifiedQuery ctx name t).clauses =
    Clause.faultOfList? other (plainQuery ctx name t).clauses := by
  rw [← columns_plainQuery ctx name] at h
  rw [clauses_qualifiedQuery hctx, Clause.faultOfList?_mapColumns _ h]

theorem truthOfList_qualifiedQuery : Clause.truthOfList row (qualifiedQuery ctx name t).clauses =
    Clause.truthOfList other (plainQuery ctx name t).clauses := by
  rw [← columns_plainQuery ctx name] at h
  rw [clauses_qualifiedQuery hctx, Clause.truthOfList_mapColumns _ h]

theorem evaluate_qualifiedQuery : Clause.evaluate row (qualifiedQuery ctx name t).clauses =
    Clause.evaluate other (plainQuery ctx name t).clauses := by
  rw [Clause.evaluate, Clause.evaluate, faultOfList?_qualifiedQuery hctx h,
    truthOfList_qualifiedQuery hctx h]

end Queries

/-- Queries that find the same faults and truths in the rows of a table select the same ones. -/
theorem select_congr {table : Table} {q other : Query}
    (hfault : ∀ row ∈ table.rows,
      Clause.faultOfList? row q.clauses = Clause.faultOfList? row other.clauses)
    (htruth : ∀ row ∈ table.rows,
      Clause.truthOfList row q.clauses = Clause.truthOfList row other.clauses) :
    table.select q = table.select other := by
  have hfaults (rows : List Row) (h : ∀ row ∈ rows,
      Clause.faultOfList? row q.clauses = Clause.faultOfList? row other.clauses) :
      rows.findSome? (Clause.faultOfList? · q.clauses) =
        rows.findSome? (Clause.faultOfList? · other.clauses) := by
    induction rows with
    | nil => rfl
    | cons row rest ih =>
      obtain ⟨hrow, hrest⟩ := List.forall_mem_cons.1 h
      rw [List.findSome?_cons, List.findSome?_cons, hrow, ih hrest]
  have hselects : table.rows.filter (selects q.clauses) =
      table.rows.filter (selects other.clauses) := by
    refine List.filter_congr fun row hrow => ?_
    rw [selects, selects, htruth row hrow]
  rw [select, select, hfaults _ hfault, hselects]

/-- Queries that select the same rows and compare them alike have the same answer. -/
theorem fetch_congr {table : Table} {q other : Query} (hlimit : q.limit = other.limit)
    (hoffset : q.offset = other.offset) (hselect : table.select q = table.select other)
    (horder : ∀ a ∈ table.rows, ∀ b ∈ table.rows,
      compareRows resolve q.order a b = compareRows resolve other.order a b) :
    table.fetch q = table.fetch other := by
  rw [fetch, fetch, hselect, hlimit, hoffset]
  unfold select
  split
  · rfl
  · split
    · rfl
    · have hsort : StableSort.sort (compareRows resolve q.order)
          (table.rows.filter (selects other.clauses)) =
          StableSort.sort (compareRows resolve other.order)
            (table.rows.filter (selects other.clauses)) := by
        refine StableSort.sort_congr fun a ha b hb => ?_
        exact horder a (List.mem_filter.1 ha).1 b (List.mem_filter.1 hb).1
      rw [Except.map, Except.map, hsort]

/-- What the name of a table does to the columns that it qualifies. A column finds its own cell in all
rows without points in their names exactly if the table's name has no point or the column has one. Behind
a name without a point, clauses and orders are those on the columns themselves. Behind one with a point,
clauses on columns without points evaluate as they do on a row that holds nothing, and all rows tie. -/
theorem qualified_columns_find_cells (ctx : Context) (hctx : ctx.table = none) (name : String) :
    (∀ field, (∀ row : Row, row.IsFlat →
        resolve row (ctx.qualifiedName field (some name)) = resolve row (ctx.columnName field)) ↔
      ('.' ∈ name.toList → '.' ∈ (ctx.columnName field).toList)) ∧
    ('.' ∉ name.toList → ∀ t,
      (∀ row : Row, row.IsFlat →
        Clause.evaluate row (qualifiedQuery ctx name t).clauses =
          Clause.evaluate row (plainQuery ctx name t).clauses) ∧
      ∀ (rows : List Row) (field : String) (d : Direction), (∀ row ∈ rows, row.IsFlat) →
        (ofRows name rows).fetch ((qualifiedQuery ctx name t).orderBy
            (ctx.qualifiedName field (some name)) d) =
          (ofRows name rows).fetch ((plainQuery ctx name t).orderBy (ctx.columnName field) d)) ∧
    ('.' ∈ name.toList →
      (∀ t, (∀ column ∈ Clause.columnsOfList (compile ctx none t), '.' ∉ column.toList) →
        ∀ row : Row, row.IsFlat →
          Clause.evaluate row (qualifiedQuery ctx name t).clauses =
            Clause.evaluate [] (plainQuery ctx name t).clauses) ∧
      ∀ (rows : List Row) (field : String) (d : Direction), '.' ∉ (ctx.columnName field).toList →
        (∀ row ∈ rows, row.IsFlat) →
        StableSort.sort (compareRows resolve [(ctx.qualifiedName field (some name), d)]) rows =
          rows) := by
  refine ⟨?_, ?_, ?_⟩
  · intro field
    rw [Context.qualifiedName_some hctx]
    exact forall_resolve_qualify_iff name (ctx.columnName field)
  · intro hname t
    have hcell {row : Row} (hrow : row.IsFlat) (column : String) :
        resolve row (qualify name column) = resolve row column :=
      resolve_qualify hrow fun h => absurd h hname
    constructor
    · intro row hrow
      exact evaluate_qualifiedQuery hctx fun column _ => hcell hrow column
    · intro rows field d hrows
      refine fetch_congr rfl rfl (select_congr ?_ ?_) ?_
      · intro row hrow
        exact faultOfList?_qualifiedQuery hctx fun column _ => hcell (hrows row hrow) column
      · intro row hrow
        exact truthOfList_qualifiedQuery hctx fun column _ => hcell (hrows row hrow) column
      · intro a ha b hb
        simp only [Query.orderBy, qualifiedQuery, plainQuery, Query.filter, Query.ofTable,
          List.nil_append, compareRows, Context.qualifiedName_some hctx, hcell (hrows a ha),
          hcell (hrows b hb)]
  · intro hname
    constructor
    · intro t hcolumns row hrow
      -- No column finds a cell, and in the empty row none does either.
      refine evaluate_qualifiedQuery hctx fun column hcolumn => ?_
      rw [resolve_qualify_eq_none hrow hname (hcolumns column hcolumn), resolve_nil]
    · intro rows field d hfield hrows
      have hlost {row : Row} (hrow : row.IsFlat) :
          resolve row (ctx.qualifiedName field (some name)) = none := by
        rw [Context.qualifiedName_some hctx]
        exact resolve_qualify_eq_none hrow hname hfield
      have hties : ∀ a ∈ rows, ∀ b ∈ rows,
          compareRows resolve [(ctx.qualifiedName field (some name), d)] a b = .eq := by
        intro a ha b hb
        rw [compareRows, compareRows, hlost (hrows a ha), hlost (hrows b hb)]
        cases d <;> rfl
      rw [StableSort.sort_congr hties, StableSort.sort_of_eq]

theorem adults_of_users_in_order :
    let adult : Value := .map [("age", .map [("gte", .int 18)])]
    let rows : List Row := [[("age", .int 30)], [("age", .int 7)], [("age", .int 20)]]
    (∀ row ∈ rows, row.IsFlat) ∧
      resolve [("age", .int 7)] "users.age" = some (.int 7) ∧
      Clause.evaluate [("age", .int 7)] (qualifiedQuery .default "users" adult).clauses =
        .ok (some false) ∧
      (ofRows "users" rows).fetch
          ((qualifiedQuery .default "users" adult).orderBy "users.age" .asc) =
        .ok [[("age", .int 20)], [("age", .int 30)]] ∧
      Clause.evaluate [("age", .int 7)] (qualifiedQuery .default "app.users" adult).clauses =
        .ok none ∧
      StableSort.sort (compareRows resolve [("app.users.age", .asc)]) rows = rows := by
  intro adult rows
  have hflat : ∀ row ∈ rows, row.IsFlat := by decide +kernel
  have hrow : Row.IsFlat [("age", .int 7)] := by decide +kernel
  have hplain : '.' ∉ "users".toList := by decide +kernel
  have hdotted : '.' ∈ "app.users".toList := by decide +kernel
  have hcolumns : ∀ column ∈ Clause.columnsOfList (compile .default none adult),
      '.' ∉ column.toList := by decide +kernel
  obtain ⟨hcells, hseen, -⟩ := qualified_columns_find_cells .default rfl "users"
  obtain ⟨hevaluate, hfetch⟩ := hseen hplain adult
  obtain ⟨-, -, hhidden⟩ := qualified_columns_find_cells .default rfl "app.users"
  obtain ⟨hmissing, hties⟩ := hhidden hdotted
  refine ⟨hflat, ?_, ?_, ?_, ?_, ?_⟩
  · exact ((hcells "age").2 (fun h => absurd h hplain) _ hrow).trans (by decide +kernel)
  · exact (hevaluate _ hrow).trans (by decide +kernel)
  · exact (hfetch rows "age" .asc hflat).trans (by decide +kernel)
  · exact (hmissing adult hcolumns _ hrow).trans (by decide +kernel)
  · exact hties rows "age" .asc (by decide +kernel) hflat

/-- In the table of a schema no row is found by its own cell, and the rows stay in the order in which
they were inserted. -/
theorem schema_hides_cells :
    let aged : Value := .map [("age", .int 20)]
    let rows : List Row := [[("age", .int 20)], [("age", .int 7)]]
    let every : Value := .map []
    Filter.normalize aged = aged ∧ (∀ row ∈ rows, row.IsFlat) ∧
      selects (plainQuery .default "app.users" aged).clauses [("age", .int 20)] = true ∧
      selects (qualifiedQuery .default "app.users" aged).clauses [("age", .int 20)] = false ∧
      (ofRows "app.users" rows).fetch ((plainQuery .default "app.users" every).orderBy
        (Context.default.qualifiedName "age" none) .asc) = .ok rows.reverse ∧
      (ofRows "app.users" rows).fetch ((qualifiedQuery .default "app.users" every).orderBy
        (Context.default.qualifiedName "age" (some "app.users")) .asc) = .ok rows := by
  intro aged rows every
  decide +kernel

end PagedFilter.Table
