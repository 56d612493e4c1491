import PagedFilter.Proofs.Page.Narrowed

/-!
A bound on a query. A bound joins by `and`, which binds tighter than `or`, so it narrows the last run
of the clauses that it is added to. Rows that an earlier run accepts escape it: they are selected on
both sides of the bound, they stay on pages past a cursor, and the probes at the edges of a page find
them.
-/

namespace PagedFilter.Page

open Table

/-- Whether the cell of a column lies strictly on a side of a value. -/
def liesOn (column : String) (side : Side) (v : Value) (row : Row) : Bool :=
  compareCell side.comparison v (resolve row column) == some true

/-- Whether the clauses of a query accept a row before its last run, which is the one that further
clauses narrow. -/
def escapes (q : Query) (row : Row) : Bool := (Clause.runs q.clauses).acceptsEarlier row

/-! ### Bounded queries -/

theorem selects_filter (q : Query) {cs : List Clause} (h : ∀ c ∈ cs, c.connective = .and)
    (row : Row) : selects (q.filter cs).clauses row = (escapes q row ||
      ((Clause.runs q.clauses).acceptsLast row && selects (Clause.prune cs) row)) :=
  Clause.selects_append (Clause.connective_of_mem_prune h) row

section Bound

variable (q : Query) (column : String) (side : Side) (v : Value)

theorem selects_bounded (row : Row) :
    selects (q.filter [tableBound column side v]).clauses row =
      (escapes q row || ((Clause.runs q.clauses).acceptsLast row && liesOn column side v row)) := by
  have hand : ∀ c ∈ [tableBound column side v], c.connective = .and :=
    List.forall_mem_singleton.2 rfl
  have hbound : selects [tableBound column side v] row = liesOn column side v row := by
    rw [selects, truthOfList_singleton, tableBound, Clause.truth, liesOn]
  rw [selects_filter q hand, ← hbound]
  rfl

/-- A bounded query selects what the query does and lies on the side, but for rows that escape. -/
theorem selects_bounded_iff (row : Row) :
    (selects (q.filter [tableBound column side v]).clauses row =
        (selects q.clauses row && liesOn column side v row)) ↔
      (escapes q row = true → liesOn column side v row = true) := by
  have hselects : selects q.clauses row =
      (escapes q row || (Clause.runs q.clauses).acceptsLast row) :=
    Clause.selects_eq_runs row q.clauses
  rw [selects_bounded, hselects]
  cases escapes q row <;> cases liesOn column side v row <;> simp

theorem selects_of_bounded {q : Query} {column : String} {side : Side} {v : Value} {row : Row}
    (h : selects (q.filter [tableBound column side v]).clauses row = true) :
    selects q.clauses row = true := by
  rw [selects_bounded, Bool.or_eq_true, Bool.and_eq_true] at h
  rw [Clause.selects_eq_runs, Bool.or_eq_true]
  exact h.imp_right And.left

theorem escapes_or_liesOn {q : Query} {column : String} {side : Side} {v : Value} {row : Row}
    (h : selects (q.filter [tableBound column side v]).clauses row = true) :
    escapes q row = true ∨ liesOn column side v row = true := by
  rw [selects_bounded, Bool.or_eq_true, Bool.and_eq_true] at h
  exact h.imp_right And.right

theorem select_bounded (table : Table) : table.select (q.filter [tableBound column side v]) =
    (table.select q).map fun _ => table.rows.filter fun row =>
      escapes q row || ((Clause.runs q.clauses).acceptsLast row && liesOn column side v row) := by
  rw [select_filter_tableBound]
  exact congrArg (fun test => (table.select q).map fun _ => table.rows.filter test)
    (funext (selects_bounded q column side v))

end Bound

/-! ### Pages past a cursor -/

variable {table : Table} {base : Query} {ctx : Context}

theorem escapes_narrow (base : Query) (raw : Value) (ctx : Context) (row : Row) :
    escapes (narrow base raw ctx) row = escapes base row := by
  rw [escapes, clauses_narrow, Clause.runs_append (connective_narrow_ofTable base.table raw ctx)]
  rfl

theorem escapes_or_liesOn_of_mem {cfg : Config} {r : CursorRequest} {page : CursorPage}
    {cursor : Value} {row : Row} (hcursor : r.cursor = some cursor)
    (h : rowsByCursor cfg table base r ctx = .ok page) (hrow : row ∈ page.list) :
    escapes base row = true ∨ liesOn (ctx.qualifiedName r.sortField (some base.table))
      (Side.ofCursor r.direction r.towards) cursor row = true := by
  obtain ⟨⟨windowed, fetched, hclauses, hfetch, hlist⟩, _⟩ := rowsByCursor_eq_ok h
  have hfetched : row ∈ fetched := mem_of_mem_inOrder (hlist ▸ hrow)
  obtain ⟨_, haccepted⟩ := accepted_of_fetch hfetch hfetched
  rw [Clause.evaluate_eq_true_iff, hclauses, tableList, hcursor] at haccepted
  rw [← escapes_narrow base r.filter ctx]
  exact escapes_or_liesOn haccepted.2

/-- A probe finds a row that the query selects. -/
theorem exists_of_tableProbe {q : Query} {column : String} {side : Side} {v : Value}
    (h : tableProbe table q column side v = .ok true) :
    ∃ row ∈ table.rows, selects (q.filter [tableBound column side v]).clauses row = true := by
  obtain ⟨found, hfetch, hfound⟩ := exists_of_map_eq_ok h
  rw [Bool.not_eq_true', List.isEmpty_eq_false_iff_exists_mem] at hfound
  obtain ⟨row, hrow⟩ := hfound
  obtain ⟨hmem, haccepted⟩ := accepted_of_fetch hfetch hrow
  exact ⟨row, hmem, ((Clause.evaluate_eq_true_iff row _).1 haccepted).2⟩

/-- Clauses that join by `and` narrow the last run of a query, and so does a bound: it takes out the
rows elsewhere exactly where no earlier run accepts one. So the rows of a page lie past its cursor,
and those that a probe finds lie on its side, but for rows that escape the bound. -/
theorem bounds_narrow_last_run (q : Query) :
    (∀ (cs : List Clause) (row : Row), (∀ c ∈ cs, c.connective = .and) →
      selects (q.filter cs).clauses row = (escapes q row ||
        ((Clause.runs q.clauses).acceptsLast row && selects (Clause.prune cs) row))) ∧
    (∀ (column : String) (side : Side) (v : Value),
      (∀ row, (selects (q.filter [tableBound column side v]).clauses row =
          (selects q.clauses row && liesOn column side v row)) ↔
        (escapes q row = true → liesOn column side v row = true)) ∧
      ∀ table : Table, table.select (q.filter [tableBound column side v]) =
          (table.select q).map (fun _ => table.rows.filter fun row => escapes q row ||
            ((Clause.runs q.clauses).acceptsLast row && liesOn column side v row)) ∧
        (tableProbe table q column side v = .ok true → ∃ row ∈ table.rows,
          selects q.clauses row = true ∧
            (escapes q row = true ∨ liesOn column side v row = true))) ∧
    ∀ (cfg : Config) (table : Table) (r : CursorRequest) (ctx : Context) (cursor : Value)
      (page : CursorPage), r.cursor = some cursor → rowsByCursor cfg table q r ctx = .ok page →
        ∀ row ∈ page.list, escapes q row = true ∨
          liesOn (ctx.qualifiedName r.sortField (some q.table))
            (Side.ofCursor r.direction r.towards) cursor row = true := by
  refine ⟨?_, ?_, ?_⟩
  · intro cs row h
    exact selects_filter q h row
  · intro column side v
    refine ⟨selects_bounded_iff q column side v, fun table => ?_⟩
    refine ⟨select_bounded q column side v table, fun hprobe => ?_⟩
    obtain ⟨row, hrow, hselected⟩ := exists_of_tableProbe hprobe
    exact ⟨row, hrow, selects_of_bounded hselected, escapes_or_liesOn hselected⟩
  · intro cfg table r ctx cursor page hcursor hpage row hrow
    exact escapes_or_liesOn_of_mem hcursor hpage hrow

theorem bounded_pages_of_two_roles :
    let row (n : Int64) (role : String) : Row := [("n", .int n), ("role", .str role)]
    let table := Table.ofRows "t" [row 1 "b", row 2 "b", row 3 "a"]
    let q := ((Query.ofTable "t").filter [.compare "role" .eq (.str "a")]).filter
      [.group .or [.compare "role" .eq (.str "b")]]
    let r : CursorRequest := ⟨.map [], "n", .asc, none, some (.int 1), .next⟩
    selects (q.filter [.never]).clauses (row 3 "a") = true ∧
      selects (q.filter [.never]).clauses (row 1 "b") = false ∧
      (selects (q.filter [tableBound "n" .above (.int 1)]).clauses (row 2 "b") =
        (selects q.clauses (row 2 "b") && liesOn "n" .above (.int 1) (row 2 "b"))) ∧
      (∃ found ∈ table.rows, selects q.clauses found = true ∧
        (escapes q found = true ∨ liesOn "n" .above (.int 2) found = true)) ∧
      ∃ page, rowsByCursor .default table q r .default = .ok page ∧
        page.list = [row 2 "b", row 3 "a"] ∧
        ∀ row ∈ page.list, escapes q row = true ∨ liesOn "t.n" .above (.int 1) row = true := by
  intro row table q r
  obtain ⟨hclauses, hbound, hpages⟩ := bounds_narrow_last_run q
  have hnever : ∀ c ∈ [Clause.never], c.connective = .and := List.forall_mem_singleton.2 rfl
  have hprobe : tableProbe table q "n" .above (.int 2) = .ok true := by decide +kernel
  have hpage : rowsByCursor .default table q r .default =
      .ok ⟨[row 2 "b", row 3 "a"], 3, ⟨"n", .asc⟩, some (.int 3), some (.int 2)⟩ := by
    decide +kernel
  have hcolumn : Context.default.qualifiedName r.sortField (some q.table) = "t.n" := by
    decide +kernel
  have hlist := hpages .default table r .default (.int 1) _ rfl hpage
  rw [hcolumn] at hlist
  have hfound := ((hbound "n" .above (.int 2)).2 table).2 hprobe
  refine ⟨?_, ?_, ?_, hfound, ⟨_, hpage, rfl, hlist⟩⟩
  · rw [hclauses [.never] (row 3 "a") hnever]
    rfl
  · rw [hclauses [.never] (row 1 "b") hnever]
    rfl
  · exact ((hbound "n" .above (.int 1)).1 (row 2 "b")).2 fun _ => rfl

/-- A row with an earlier role stays on the page behind it, and both edges of the page lead on. -/
theorem earlier_run_escapes_cursor :
    let row (n : Int64) (role : String) : Row := [("n", .int n), ("role", .str role)]
    let table := Table.ofRows "t" [row 1 "a", row 2 "b"]
    let q := ((Query.ofTable "t").filter [.compare "role" .eq (.str "a")]).filter
      [.group .or [.compare "role" .eq (.str "b")]]
    let r : CursorRequest := ⟨.map [], "n", .asc, none, some (.int 1), .next⟩
    selects (q.filter [tableBound "n" .above (.int 1)]).clauses (row 1 "a") = true ∧
      liesOn "n" .above (.int 1) (row 1 "a") = false ∧
      rowsByCursor .default table q r .default =
        .ok ⟨[row 1 "a", row 2 "b"], 2, ⟨"n", .asc⟩, some (.int 2), some (.int 1)⟩ := by
  intro row table q r
  exact ⟨rfl, rfl, by decide +kernel⟩

end PagedFilter.Page
