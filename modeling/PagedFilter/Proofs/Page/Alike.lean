import PagedFilter.Proofs.Page.Edges
import PagedFilter.Proofs.Page.Offset

/-!
Both stores make the same pages of the same rows. A page depends on the rows only through a view of
them, and where no sort value is a list both stores look at rows alike: they find the same sort value,
hand on the same value at an edge, and let the same rows lie on a side of a value.
-/

namespace PagedFilter.Page

/-! ### Views that agree -/

/-- Two views that tell the same of every row. -/
structure View.AgreesOn (v w : View) (rows : List Row) : Prop where
  value : ∀ row ∈ rows, v.value row = w.value row
  edge : ∀ row ∈ rows, v.edge row = w.edge row
  lies : ∀ row ∈ rows, ∀ side c, v.lies side c row = w.lies side c row

namespace View.AgreesOn

variable {v w : View} {rows : List Row}

theorem mono (h : v.AgreesOn w rows) {part : List Row} (hpart : ∀ row ∈ part, row ∈ rows) :
    v.AgreesOn w part where
  value := fun row hrow => h.value row (hpart row hrow)
  edge := fun row hrow => h.edge row (hpart row hrow)
  lies := fun row hrow => h.lies row (hpart row hrow)

variable (h : v.AgreesOn w rows)
include h

theorem sort_eq (d : Direction) : v.sort d rows = w.sort d rows := by
  apply StableSort.sort_congr
  intro a ha b hb
  rw [View.compare, View.compare, View.key, View.key, View.key, View.key, h.value a ha, h.value b hb]

theorem past_eq (r : CursorRequest) : v.past r rows = w.past r rows := by
  rw [View.past_eq_filter_all, View.past_eq_filter_all]
  apply List.filter_congr
  intro row hrow
  simp only [h.lies row hrow]

theorem list_eq (r : CursorRequest) (limit : Nat) : v.list r limit rows = w.list r limit rows := by
  have hpast : ∀ row ∈ w.past r rows, row ∈ rows := fun row hrow => ((View.mem_past row).1 hrow).1
  rw [View.list, View.list, h.past_eq, (h.mono hpast).sort_eq]

theorem edgeTowards_eq (side : Side) (edge : Option Value) :
    v.edgeTowards side rows edge = w.edgeTowards side rows edge := by
  have hany (c : Value) : rows.any (v.lies side c) = rows.any (w.lies side c) := by
    rw [Bool.eq_iff_iff, List.any_eq_true, List.any_eq_true]
    refine exists_congr fun row => and_congr_right fun hrow => ?_
    rw [h.lies row hrow]
  simp only [View.edgeTowards, hany]

theorem bind_edge_eq {shown : Option Row} (hshown : ∀ row, shown = some row → row ∈ rows) :
    shown.bind v.edge = shown.bind w.edge := by
  cases shown with
  | none => rfl
  | some row => exact h.edge row (hshown row rfl)

/-- Of the same rows they make the same page. -/
theorem page_eq (r : CursorRequest) (limit : Nat) : v.page r limit rows = w.page r limit rows := by
  have hmem : ∀ row ∈ w.list r limit rows, row ∈ rows := by
    intro row hrow
    exact ((View.mem_past row).1 (View.mem_past_of_mem_list hrow)).1
  have hfirst : (w.list r limit rows).head?.bind v.edge =
      (w.list r limit rows).head?.bind w.edge :=
    h.bind_edge_eq fun row hrow => hmem row (List.mem_of_head? hrow)
  have hlast : (w.list r limit rows).getLast?.bind v.edge =
      (w.list r limit rows).getLast?.bind w.edge :=
    h.bind_edge_eq fun row hrow => hmem row (List.mem_of_getLast? hrow)
  rw [View.page_eq, View.page_eq, h.list_eq, hfirst, hlast, h.edgeTowards_eq, h.edgeTowards_eq]

end View.AgreesOn

/-! ### The two stores -/

/-- A value that is no list lies on the same side of an operand in both stores. -/
theorem isOrdered_eq_compareCell {value : Option Value} (operand : Value)
    (hlist : (value.getD .null).kind ≠ .list) (side : Side) :
    Document.isOrdered (· == side.ordering) value operand =
      (Table.compareCell side.comparison operand value == some true) := by
  by_cases hkind : (value.getD .null).kind = operand.kind
  · rw [isOrdered_of_kind hkind, compareCell_of_kind hkind]
  · rw [isOrdered_of_ne_kind hkind hlist, compareCell_of_ne_kind hkind]

section Stores

variable {cfg : Config} {store : Document.Collection} {table : Table} {base : Table.Query}
  {ctx : Table.Context} {filter : Value} {field : String} {rows : List Row}

theorem agreesOn_of_no_list (hs : (Source.rows table base ctx).Sorts field)
    (hname : ctx.columnName field = field)
    (hm : table.select (narrow base filter ctx) = .ok rows)
    (hlist : ∀ row ∈ rows, (((Source.documents store).view field).key row).kind ≠ .list) :
    ((Source.documents store).view field).AgreesOn ((Source.rows table base ctx).view field)
      rows := by
  obtain ⟨hcolumn, htable, hflat, _⟩ := hs
  have hvalue : ∀ row ∈ rows, Value.lookup row field =
      Table.resolve row (ctx.qualifiedName field (some base.table)) := by
    intro row hrow
    have hcell := Table.resolve_qualifiedName (hflat row (mem_of_select hm row hrow)) htable hcolumn
    rw [hname] at hcell hcolumn
    rw [hcell]
    exact Value.lookup_of_not_mem row field hcolumn
  refine ⟨hvalue, ?_, ?_⟩
  · intro row _
    show sortValue row field = sortValue row (ctx.columnName field)
    rw [hname]
  · intro row hrow side c
    have hside : Document.isOrdered (· == side.ordering) (Value.lookup row field) c =
        (Table.compareCell side.comparison c (Value.lookup row field) == some true) :=
      isOrdered_eq_compareCell c (hlist row hrow) side
    rw [hvalue row hrow] at hside
    show Document.isOrdered (· == side.ordering) (Value.lookup row field) c = _
    rw [hvalue row hrow]
    exact hside

/-- Where a filter selects the same rows of a collection and of a table, none of them sorted by a list,
both make the same pages of them: by offset whatever page is asked for, and by cursor from any cursor
in which nothing is read as a date, forwards and back. -/
theorem stores_make_same_pages (cfg : Config) (hf : isNative field = false)
    (hs : (Source.rows table base ctx).Sorts field) (hname : ctx.columnName field = field)
    (hdocuments : store.select (documentFilter cfg filter) = .ok rows)
    (hrows : table.select (narrow base filter ctx) = .ok rows)
    (hlist : ∀ row ∈ rows, (((Source.documents store).view field).key row).kind ≠ .list) :
    (∀ r : OffsetRequest, r.filter = filter → r.sortField = field →
      ∃ page, documentsByOffset cfg store r = .ok page ∧
        rowsByOffset cfg table base r ctx = .ok page) ∧
    ∀ r : CursorRequest, r.filter = filter → r.sortField = field →
      (∀ c, r.cursor = some c → Filter.castDates c = c) →
      ∃ page, documentsByCursor cfg store r = .ok page ∧
        rowsByCursor cfg table base r ctx = .ok page := by
  have hagree : ((Source.documents store).view field).AgreesOn
      ((Source.rows table base ctx).view field) rows := agreesOn_of_no_list hs hname hrows hlist
  refine ⟨?_, ?_⟩
  · rintro r rfl rfl
    have hdocs : (Source.documents store).byOffset cfg r = _ :=
      Source.byOffset_eq_assemble trivial hdocuments
    have htable : (Source.rows table base ctx).byOffset cfg r = _ :=
      Source.byOffset_eq_assemble hs.2.2.2.2.1 hrows
    rw [hagree.sort_eq] at hdocs
    exact ⟨_, hdocs, htable⟩
  · rintro r rfl rfl hcursor
    have hdocs := documentsByCursor_eq_page hf hdocuments fun c hc =>
      documentCursor_of_castDates cfg hf hdocuments (hcursor c hc)
    have htable : rowsByCursor cfg table base r ctx = _ := rowsByCursor_eq_page hs hrows
    rw [hagree.page_eq] at hdocs
    exact ⟨_, hdocs, htable⟩

end Stores

theorem same_pages_of_mixed_values :
    let row (id : Int64) (v : Value) : Row := [("id", .int id), ("n", v)]
    let rows : List Row := [row 1 (.int 1), row 2 .null, row 3 (.str "a"), row 4 (.int 3),
      [("id", .int 5)], row 6 (.int 1), row 7 (.map [("k", .int 2)])]
    let filter : Value := .map [("id", .map [("gt", .int 1)])]
    ∀ r : CursorRequest, r.filter = filter → r.sortField = "n" →
      (∀ c, r.cursor = some c → Filter.castDates c = c) →
      ∃ page, documentsByCursor .default (.ofList rows) r = .ok page ∧
        rowsByCursor .default (.ofRows "t" rows) (.ofTable "t") r .default = .ok page := by
  intro row rows filter
  have hs : (Source.rows (.ofRows "t" rows) (.ofTable "t") .default).Sorts "n" :=
    ⟨by decide, by decide, by decide, by decide, rfl, rfl⟩
  have hdocuments : (Document.Collection.ofList rows).select (documentFilter .default filter) =
      .ok rows.tail := by
    decide +kernel
  have hrows : (Table.ofRows "t" rows).select (narrow (.ofTable "t") filter .default) =
      .ok rows.tail := by
    decide +kernel
  have hlist : ∀ row ∈ rows.tail,
      (((Source.documents (.ofList rows)).view "n").key row).kind ≠ .list := by
    decide +kernel
  exact (stores_make_same_pages .default (by decide) hs rfl hdocuments hrows hlist).2

end PagedFilter.Page
