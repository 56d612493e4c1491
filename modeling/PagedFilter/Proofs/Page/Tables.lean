import PagedFilter.Proofs.Page.Source
import PagedFilter.Proofs.Table.Meaning

/-!
A page of a table: a bound narrows a query whose clauses are joined by `and`, and it adds no fault, so
the page is made of the rows that the query selects.
-/

namespace PagedFilter.Page

open Table

/-! ### Queries -/

theorem fault?_tableBound (row : Row) (column : String) (side : Side) (v : Value) :
    (tableBound column side v).fault? row = none := by
  have hl : side.comparison ≠ .like := by cases side <;> decide
  have hi : side.comparison ≠ .ilike := by cases side <;> decide
  rw [tableBound, Clause.fault?]
  exact oversized?_of_order hl hi v (resolve row column)

/-- A row that a bounded query selects is one of the query that lies on the side. -/
theorem selects_tableBound {clauses : List Clause} (h : ∀ c ∈ clauses, c.connective = .and)
    (column : String) (side : Side) (v : Value) (row : Row) :
    selects (clauses ++ [tableBound column side v]) row =
      (compareCell side.comparison v (resolve row column) == some true && selects clauses row) := by
  have hbound : ∀ c ∈ clauses ++ [tableBound column side v], c.connective = .and := by
    intro c hc
    rcases List.mem_append.1 hc with hc | hc
    · exact h c hc
    · rw [List.mem_singleton.1 hc]
      rfl
  have htruth : (tableBound column side v).truth row =
      compareCell side.comparison v (resolve row column) := by
    rw [tableBound, Clause.truth]
  rw [selects, selects, Clause.truthOfList_of_and row _ hbound, Clause.truthOfList_of_and row _ h,
    List.map_append, Truth.all_append, Truth.and_beq_true, List.map_singleton, htruth, Truth.all,
    Truth.all, Truth.and_true, Bool.and_comm]

theorem faultOfList?_tableBound (row : Row) (clauses : List Clause) (column : String) (side : Side)
    (v : Value) : Clause.faultOfList? row (clauses ++ [tableBound column side v]) =
      Clause.faultOfList? row clauses := by
  have hbound : Clause.faultOfList? row [tableBound column side v] = none := by
    rw [faultOfList?_eq_none_iff]
    intro c hc
    rw [List.mem_singleton.1 hc]
    exact fault?_tableBound row column side v
  rw [faultOfList?_append, hbound]
  cases Clause.faultOfList? row clauses <;> rfl

variable {table : Table} {q : Query} {rows : List Row}

theorem select_eq_ok (h : table.select q = .ok rows) :
    (∀ row ∈ table.rows, Clause.faultOfList? row q.clauses = none) ∧
      rows = table.rows.filter (selects q.clauses) := by
  unfold Table.select at h
  split at h
  · simp at h
  · split at h
    · simp at h
    · next hfaults =>
      rw [Except.ok.injEq] at h
      exact ⟨List.findSome?_eq_none_iff.1 hfaults, h.symm⟩

/-- A bound adds no fault. -/
theorem select_filter_tableBound (table : Table) (q : Query) (column : String) (side : Side)
    (v : Value) : table.select (q.filter [tableBound column side v]) =
      (table.select q).map fun _ =>
        table.rows.filter (selects (q.clauses ++ [tableBound column side v])) := by
  have hclauses : (q.filter [tableBound column side v]).clauses =
      q.clauses ++ [tableBound column side v] := rfl
  have hfaults : (fun row => Clause.faultOfList? row (q.clauses ++ [tableBound column side v])) =
      fun row => Clause.faultOfList? row q.clauses := by
    funext row
    exact faultOfList?_tableBound row q.clauses column side v
  unfold Table.select
  rw [hclauses, hfaults]
  split
  · rfl
  · split <;> rfl

theorem select_tableBound (h : table.select q = .ok rows)
    (hq : ∀ c ∈ q.clauses, c.connective = .and) (column : String) (side : Side) (v : Value) :
    table.select (q.filter [tableBound column side v]) =
      .ok (rows.filter fun row => compareCell side.comparison v (resolve row column) == some true) := by
  obtain ⟨_, hrows⟩ := select_eq_ok h
  rw [select_filter_tableBound, h, hrows, List.filter_filter]
  refine congrArg Except.ok (List.filter_congr fun row _ => ?_)
  exact selects_tableBound hq column side v row

theorem connective_narrow {base : Query} (h : ∀ c ∈ base.clauses, c.connective = .and)
    (filter : Value) (ctx : Context) : ∀ c ∈ (narrow base filter ctx).clauses,
      c.connective = .and := by
  have hcompile : ∀ c ∈ compile ctx (some base.table) (Filter.normalize filter),
      c.connective = .and := by
    cases Filter.normalize filter with
    | map fields => exact connective_filterClauses ctx (some base.table) fields
    | _ => simp [compile]
  intro c hc
  rcases List.mem_append.1 hc with hc | hc
  · exact h c hc
  · exact Clause.connective_of_mem_prune hcompile c hc

/-! ### Pages -/

theorem fetch_first (h : table.select q = .ok rows) (horder : q.order = [])
    (hoffset : q.offset = none) : table.fetch (q.withLimit 1) = .ok (rows.take 1) := by
  have hselect : table.select (q.withLimit 1) = .ok rows := h
  rw [Table.fetch, hselect]
  simp [Query.withLimit, horder, hoffset, compareRows_nil, Except.map, window,
    StableSort.sort_of_eq]

theorem tableProbe_of_select (h : table.select q = .ok rows)
    (hq : ∀ c ∈ q.clauses, c.connective = .and) (horder : q.order = [])
    (hoffset : q.offset = none) (column : String) (side : Side) (v : Value) :
    tableProbe table q column side v = .ok (rows.any fun row =>
      compareCell side.comparison v (resolve row column) == some true) := by
  rw [tableProbe, fetch_first (select_tableBound h hq column side v) horder hoffset]
  exact congrArg Except.ok (isEmpty_take_filter _ rows)

/-- A query sorted by one column gives a window of the sorted rows. -/
theorem fetch_window (h : table.select q = .ok rows) {column : String} {d : Direction} {limit : Nat}
    (horder : q.order = [(column, d)]) (hlimit : q.limit = some limit) :
    table.fetch q = .ok (((StableSort.sort (fun a b => d.compare ((resolve a column).getD .null)
      ((resolve b column).getD .null)) rows).drop (q.offset.getD 0)).take limit) := by
  have hcompare : compareRows resolve [(column, d)] = fun a b =>
      d.compare ((resolve a column).getD .null) ((resolve b column).getD .null) := by
    funext a b
    exact compareRows_single resolve column d a b
  rw [Table.fetch, h, horder, hlimit, hcompare]
  rfl

theorem fetch_sorted (h : table.select q = .ok rows) (horder : q.order = [])
    (hoffset : q.offset = none) (column : String) (d : Direction) (limit : Nat) :
    table.fetch ((q.orderBy column d).withLimit limit) =
      .ok ((StableSort.sort (fun a b => d.compare ((resolve a column).getD .null)
        ((resolve b column).getD .null)) rows).take limit) := by
  have hselect : table.select ((q.orderBy column d).withLimit limit) = .ok rows := h
  have hkeys : ((q.orderBy column d).withLimit limit).order = [(column, d)] :=
    congrArg (· ++ [(column, d)]) horder
  have hskip : ((q.orderBy column d).withLimit limit).offset = none := hoffset
  rw [fetch_window hselect hkeys rfl, hskip]
  rfl

theorem count_of_select_rows (h : table.select q = .ok rows) : table.count q = .ok rows.length := by
  rw [Table.count, h]
  rfl

theorem rowsByCursor_eq_page {cfg : Config} {base : Query} {ctx : Context} {r : CursorRequest}
    (hs : (Source.rows table base ctx).Sorts r.sortField)
    (h : table.select (narrow base r.filter ctx) = .ok rows) :
    rowsByCursor cfg table base r ctx = .ok (((Source.rows table base ctx).view r.sortField).page r
      (cfg.resolveLimit r.limit).toNat rows) := by
  obtain ⟨_, _, _, hand, horder, hoffset⟩ := hs
  have hq := connective_narrow hand r.filter ctx
  have hcount := count_of_select_rows h
  have hprobe := tableProbe_of_select h hq horder hoffset
    (ctx.qualifiedName r.sortField (some base.table))
  have hfetch : table.fetch (((tableList (narrow base r.filter ctx)
      (ctx.qualifiedName r.sortField (some base.table)) r).orderBy
        (ctx.qualifiedName r.sortField (some base.table)) r.fetchDirection).withLimit
          (cfg.resolveLimit r.limit).toNat) =
      .ok ((((Source.rows table base ctx).view r.sortField).sort r.fetchDirection
        (((Source.rows table base ctx).view r.sortField).past r rows)).take
          (cfg.resolveLimit r.limit).toNat) := by
    rw [tableList, View.past]
    cases r.cursor with
    | none => exact fetch_sorted h horder hoffset _ _ _
    | some c => exact fetch_sorted (select_tableBound h hq _ _ c) horder hoffset _ _ _
  rw [rowsByCursor]
  simp only [show (narrow base r.filter ctx).table = base.table from rfl, hfetch, hcount, bind,
    Except.bind]
  exact pageOf_of_ok hprobe

end PagedFilter.Page
