import Mathlib.Data.List.Basic
import PagedFilter.Page.Offset
import PagedFilter.Proofs.Page.Tables
import PagedFilter.Proofs.Store
import PagedFilter.Proofs.Table.Runs

/-!
Requests narrow the query that they are made on. Every row of a page of a table has been selected by
the base query, where its clauses are a single run, and by the filter of the request; the count of a
page is that of the rows which both select. No filter lets a row past the base query.
-/

namespace PagedFilter.Page

open Table

variable {table : Table} {q : Query} {rows : List Row} {row : Row}

/-! ### Selected rows -/

theorem mem_of_mem_window {α : Type} {skip : Nat} {limit : Option Nat} {xs : List α} {x : α}
    (h : x ∈ window skip limit xs) : x ∈ xs := by
  cases limit with
  | none => exact List.mem_of_mem_drop h
  | some n => exact List.mem_of_mem_drop (List.mem_of_mem_take h)

/-- What a query fetches are rows of the table that its clauses are true of. -/
theorem accepted_of_fetch (h : table.fetch q = .ok rows) (hrow : row ∈ rows) :
    row ∈ table.rows ∧ Clause.evaluate row q.clauses = .ok (some true) := by
  obtain ⟨selected, hselect, rfl⟩ := exists_of_map_eq_ok h
  obtain ⟨hfaults, hselected⟩ := select_eq_ok hselect
  have hmem : row ∈ selected := (StableSort.mem_sort _ selected row).1 (mem_of_mem_window hrow)
  rw [hselected, List.mem_filter] at hmem
  exact ⟨hmem.1, (Clause.evaluate_eq_true_iff row _).2 ⟨hfaults row hmem.1, hmem.2⟩⟩

theorem count_eq_ok {n : Nat} (h : table.count q = .ok n) :
    n = (table.rows.filter (selects q.clauses)).length := by
  obtain ⟨selected, hselect, rfl⟩ := exists_of_map_eq_ok h
  rw [(select_eq_ok hselect).2]

/-! ### Pages -/

section Pages

variable {cfg : Config} {base : Query} {ctx : Context}

/-- The list of a page by offset has been fetched by a query with the clauses of the narrowed one. -/
theorem rowsByOffset_eq_ok {r : OffsetRequest} {page : OffsetPage}
    (h : rowsByOffset cfg table base r ctx = .ok page) :
    (∃ windowed : Query, windowed.clauses = (narrow base r.filter ctx).clauses ∧
      table.fetch windowed = .ok page.list) ∧
      table.count (narrow base r.filter ctx) = .ok page.totalCount := by
  unfold rowsByOffset at h
  obtain ⟨list, hfetch, h⟩ := exists_of_bind_eq_ok h
  obtain ⟨total, hcount, h⟩ := exists_of_bind_eq_ok h
  rw [Except.ok.injEq] at h
  subst h
  refine ⟨⟨_, ?_, hfetch⟩, hcount⟩
  rfl

theorem pageOf_eq_ok {r : CursorRequest} {field : String} {list : List Row} {total : Nat}
    {probe : Side → Value → Except StoreError Bool} {page : CursorPage}
    (h : pageOf r field list total probe = .ok page) :
    page.list = list ∧ page.totalCount = total := by
  unfold pageOf edges at h
  cases hfirst : list.head?.bind (sortValue · field) <;>
    cases hlast : list.getLast?.bind (sortValue · field) <;> simp only [hfirst, hlast] at h
  all_goals
    obtain ⟨before, _, h⟩ := exists_of_bind_eq_ok h
    obtain ⟨after, _, h⟩ := exists_of_bind_eq_ok h
    rw [Except.ok.injEq] at h
    subst h
    cases list <;> exact ⟨rfl, rfl⟩

theorem rowsByCursor_eq_ok {r : CursorRequest} {page : CursorPage}
    (h : rowsByCursor cfg table base r ctx = .ok page) :
    (∃ (windowed : Query) (fetched : List Row),
      windowed.clauses = (tableList (narrow base r.filter ctx)
        (ctx.qualifiedName r.sortField (some base.table)) r).clauses ∧
      table.fetch windowed = .ok fetched ∧ page.list = inOrder r fetched) ∧
      table.count (narrow base r.filter ctx) = .ok page.totalCount := by
  unfold rowsByCursor at h
  obtain ⟨fetched, hfetch, h⟩ := exists_of_bind_eq_ok h
  obtain ⟨total, hcount, h⟩ := exists_of_bind_eq_ok h
  obtain ⟨hlist, htotal⟩ := pageOf_eq_ok h
  rw [htotal]
  refine ⟨⟨_, fetched, ?_, hfetch, hlist⟩, hcount⟩
  rfl

end Pages

/-! ### Narrowing -/

theorem connective_narrow_ofTable (name : String) (raw : Value) (ctx : Context) :
    ∀ c ∈ (narrow (Query.ofTable name) raw ctx).clauses, c.connective = .and :=
  connective_narrow (by simp [Query.ofTable]) raw ctx

/-- The filter of a request adds the same clauses to a base query as to a fresh one. -/
theorem clauses_narrow (base : Query) (raw : Value) (ctx : Context) :
    (narrow base raw ctx).clauses =
      base.clauses ++ (narrow (Query.ofTable base.table) raw ctx).clauses := rfl

theorem clauses_tableList (q : Query) (column : String) (r : CursorRequest) :
    ∃ bound : List Clause, (tableList q column r).clauses = q.clauses ++ bound ∧
      ∀ c ∈ bound, c.connective = .and := by
  rw [tableList]
  cases r.cursor with
  | none => exact ⟨[], (List.append_nil _).symm, by simp⟩
  | some cursor =>
    refine ⟨[tableBound column (Side.ofCursor r.direction r.towards) cursor], rfl, ?_⟩
    exact List.forall_mem_singleton.2 rfl

/-- Rows of a table that two queries both accept, and a count of all such rows. -/
structure AcceptedByBoth (table : Table) (base added : Query) (list : List Row) (count : Nat) :
    Prop where
  list : ∀ row ∈ list, row ∈ table.rows ∧ Clause.evaluate row base.clauses = .ok (some true) ∧
    Clause.evaluate row added.clauses = .ok (some true)
  count : count = (table.rows.filter fun row =>
    selects base.clauses row && selects added.clauses row).length

section Single

variable {base : Query} (h : ∀ c ∈ base.clauses.tail, c.connective = .and)
include h

theorem count_narrow {raw : Value} {ctx : Context} {n : Nat}
    (hn : table.count (narrow base raw ctx) = .ok n) :
    n = (table.rows.filter fun row => selects base.clauses row &&
      selects (narrow (Query.ofTable base.table) raw ctx).clauses row).length := by
  have hadded := connective_narrow_ofTable base.table raw ctx
  have hselects : selects (narrow base raw ctx).clauses = fun row => selects base.clauses row &&
      selects (narrow (Query.ofTable base.table) raw ctx).clauses row := by
    funext row
    rw [clauses_narrow, selects, Clause.truthOfList_append h hadded, Truth.and_beq_true]
    rfl
  rw [count_eq_ok hn, hselects]

variable {cfg : Config} {ctx : Context}

theorem acceptedByBoth_of_rowsByOffset {r : OffsetRequest} {page : OffsetPage}
    (hpage : rowsByOffset cfg table base r ctx = .ok page) :
    AcceptedByBoth table base (narrow (Query.ofTable base.table) r.filter ctx) page.list
      page.totalCount := by
  obtain ⟨⟨windowed, hclauses, hfetch⟩, hcount⟩ := rowsByOffset_eq_ok hpage
  refine ⟨fun row hrow => ?_, count_narrow h hcount⟩
  obtain ⟨hmem, haccepted⟩ := accepted_of_fetch hfetch hrow
  rw [hclauses, clauses_narrow] at haccepted
  have hadded := connective_narrow_ofTable base.table r.filter ctx
  exact ⟨hmem, (Clause.evaluate_append_eq_true_iff h hadded row).1 haccepted⟩

theorem acceptedByBoth_of_rowsByCursor {r : CursorRequest} {page : CursorPage}
    (hpage : rowsByCursor cfg table base r ctx = .ok page) :
    AcceptedByBoth table base (narrow (Query.ofTable base.table) r.filter ctx) page.list
      page.totalCount := by
  obtain ⟨⟨windowed, fetched, hclauses, hfetch, hlist⟩, hcount⟩ := rowsByCursor_eq_ok hpage
  refine ⟨fun row hrow => ?_, count_narrow h hcount⟩
  have hfetched : row ∈ fetched := mem_of_mem_inOrder (hlist ▸ hrow)
  obtain ⟨hmem, haccepted⟩ := accepted_of_fetch hfetch hfetched
  obtain ⟨bound, hbound, hand⟩ := clauses_tableList (narrow base r.filter ctx)
    (ctx.qualifiedName r.sortField (some base.table)) r
  have hadded := connective_narrow_ofTable base.table r.filter ctx
  have hboth : ∀ c ∈ (narrow (Query.ofTable base.table) r.filter ctx).clauses ++ bound,
      c.connective = .and := List.forall_mem_append.2 ⟨hadded, hand⟩
  rw [hclauses, hbound, clauses_narrow, List.append_assoc,
    Clause.evaluate_append_eq_true_iff h hboth] at haccepted
  have hown : ∀ c ∈ (narrow (Query.ofTable base.table) r.filter ctx).clauses.tail,
      c.connective = .and := fun c hc => hadded c (List.mem_of_mem_tail hc)
  exact ⟨hmem, haccepted.1, ((Clause.evaluate_append_eq_true_iff hown hand row).1 haccepted.2).1⟩

end Single

/-- A base query whose clauses are joined by `and` and a filter on it, whatever the filter is, are
evaluated on every row to the conjunction of the two. So the rows of pages, and those that are
counted, are rows that the base query accepts. -/
theorem narrowed_pages_keep_to_base (base : Query) (ctx : Context)
    (h : ∀ c ∈ base.clauses.tail, c.connective = .and) :
    (∀ (raw : Value) (row : Row), Clause.evaluate row (narrow base raw ctx).clauses = (do
      let own ← Clause.evaluate row base.clauses
      let added ← Clause.evaluate row (narrow (Query.ofTable base.table) raw ctx).clauses
      return own.and added)) ∧
    (∀ (cfg : Config) (table : Table) (r : OffsetRequest) (page : OffsetPage),
      rowsByOffset cfg table base r ctx = .ok page →
        AcceptedByBoth table base (narrow (Query.ofTable base.table) r.filter ctx) page.list
          page.totalCount) ∧
    ∀ (cfg : Config) (table : Table) (r : CursorRequest) (page : CursorPage),
      rowsByCursor cfg table base r ctx = .ok page →
        AcceptedByBoth table base (narrow (Query.ofTable base.table) r.filter ctx) page.list
          page.totalCount := by
  refine ⟨?_, ?_, ?_⟩
  · intro raw row
    exact Clause.evaluate_append h (connective_narrow_ofTable base.table raw ctx) row
  · intro cfg table r page hpage
    exact acceptedByBoth_of_rowsByOffset h hpage
  · intro cfg table r page hpage
    exact acceptedByBoth_of_rowsByCursor h hpage

theorem pages_of_one_tenant :
    let person (name tenant : String) : Row := [("name", .str name), ("tenant", .str tenant)]
    let table := Table.ofRows "people" [person "Ann" "a", person "Bob" "b", person "Cid" "a"]
    let base := ((Query.ofTable "people").filter [.compare "tenant" .eq (.str "a")]).filter
      [.group .and [.isNotNull "name", .group .or [.never]]]
    let others : Value := .list [.map [("tenant", .str "b")],
      .map [("name", .map [("in", .str "Ann"), ("near", .null)])], .int 5]
    let filter : Value := .map [("or", others)]
    (∀ c ∈ base.clauses.tail, c.connective = .and) ∧
      Clause.evaluate (person "Bob" "b") (narrow (Query.ofTable "people") filter .default).clauses =
        .ok (some true) ∧
      Clause.evaluate (person "Bob" "b") (narrow base filter .default).clauses = .ok (some false) ∧
      ∃ page, rowsByCursor .default table base ⟨filter, "name", .asc, none, none, .next⟩ .default =
          .ok page ∧ page.totalCount = 1 ∧
        ∀ row ∈ page.list, Clause.evaluate row base.clauses = .ok (some true) := by
  intro person table base others filter
  have h : ∀ c ∈ base.clauses.tail, c.connective = .and := List.forall_mem_singleton.2 rfl
  have halone : Clause.evaluate (person "Bob" "b")
      (narrow (Query.ofTable "people") filter .default).clauses = .ok (some true) :=
    (Clause.evaluate_eq_true_iff _ _).2 ⟨by decide +kernel, by decide +kernel⟩
  have hbase : Clause.evaluate (person "Bob" "b") base.clauses = .ok (some false) := rfl
  obtain ⟨hevaluate, _, hpages⟩ := narrowed_pages_keep_to_base base .default h
  refine ⟨h, halone, ?_, ?_⟩
  · have htable : base.table = "people" := rfl
    rw [hevaluate, hbase, htable, halone]
    rfl
  · have hfetch : rowsByCursor .default table base ⟨filter, "name", .asc, none, none, .next⟩
        .default = .ok ⟨[person "Ann" "a"], 1, ⟨"name", .asc⟩, none, none⟩ := by decide +kernel
    have hpage := hpages .default table _ _ hfetch
    exact ⟨_, hfetch, rfl, fun row hrow => (hpage.list row hrow).2.1⟩

end PagedFilter.Page
