import PagedFilter.Proofs.Listing
import PagedFilter.Proofs.Page.Documents
import PagedFilter.Proofs.Page.Tables

/-!
Rows whose sort values are of one kind without doubles and none of them null, and rows that such values
tell apart, no two of them being equal. On such rows both stores bound by the same strict order that
they sort by.
-/

namespace PagedFilter.Page

/-- Every row has a value to sort by that is not null and holds no double; the values are of one kind
and no two of them are equal. -/
structure View.TellsApart (view : View) (rows : List Row) : Prop where
  present : ∀ row ∈ rows, ∃ v, view.value row = some v ∧ v.isNull = false ∧ v.IsFloatFree
  kind : ∀ a ∈ rows, ∀ b ∈ rows, (view.key a).kind = (view.key b).kind
  distinct : rows.Pairwise fun a b => (view.key a).compare (view.key b) ≠ .eq

/-- Every row has a value to sort by that is not null and holds no double, and the values are of one
kind. Rows may share a value. -/
structure View.OfOneKind (view : View) (rows : List Row) : Prop where
  present : ∀ row ∈ rows, ∃ v, view.value row = some v ∧ v.isNull = false ∧ v.IsFloatFree
  kind : ∀ a ∈ rows, ∀ b ∈ rows, (view.key a).kind = (view.key b).kind

theorem View.TellsApart.ofOneKind {view : View} {rows : List Row} (h : view.TellsApart rows) :
    view.OfOneKind rows := ⟨h.present, h.kind⟩

/-- A view of rows under which edges are sort values and sides are those of their order. -/
structure View.IsFaithful (view : View) (rows : List Row) : Prop where
  edge : ∀ row ∈ rows, view.edge row = some (view.key row)
  lies : ∀ row ∈ rows, ∀ c : Value, c.isNull = false → (view.key row).kind = c.kind → ∀ side,
    view.lies side c row = ((view.key row).compare c == side.ordering)

theorem View.key_of_value {view : View} {row : Row} {v : Value} (h : view.value row = some v) :
    view.key row = v := by rw [View.key, h, Option.getD_some]

theorem View.ofOneKind_map {view : View} {α : Type} {row : α → Row} {n : α → Int64}
    (hrow : ∀ a, view.value (row a) = some (.int (n a))) (xs : List α) :
    view.OfOneKind (xs.map row) := by
  have hkey : ∀ a, view.key (row a) = .int (n a) := fun a => View.key_of_value (hrow a)
  constructor
  · intro x hx
    obtain ⟨a, _, rfl⟩ := List.mem_map.1 hx
    exact ⟨_, hrow a, rfl, trivial⟩
  · intro x hx y hy
    obtain ⟨a, _, rfl⟩ := List.mem_map.1 hx
    obtain ⟨b, _, rfl⟩ := List.mem_map.1 hy
    rw [hkey, hkey]
    rfl

/-- Rows are told apart by different integers. -/
theorem View.tellsApart_map {view : View} {row : Int64 → Row} {ns : List Int64} (hn : ns.Nodup)
    (hrow : ∀ n, view.value (row n) = some (.int n)) : view.TellsApart (ns.map row) := by
  have hkind := View.ofOneKind_map hrow ns
  refine ⟨hkind.present, hkind.kind, ?_⟩
  refine List.pairwise_map.2 (hn.imp fun {n m} hne heq => hne ?_)
  rw [View.key_of_value (hrow n), View.key_of_value (hrow m)] at heq
  exact Value.int.inj (Value.eq_of_compare trivial trivial heq)

/-- Sorting in a direction is sorting by a total order, as far as the sort values hold no doubles. -/
theorem View.isOrderOn (view : View) (d : Direction) :
    StableSort.IsOrderOn (view.compare d) fun row => (view.key row).IsFloatFree :=
  d.isOrderOn_compare.comap fun _ hrow => hrow

section OfOneKind

variable {view : View} {rows : List Row} (h : view.OfOneKind rows)
include h

theorem View.OfOneKind.isFloatFree {row : Row} (hrow : row ∈ rows) :
    (view.key row).IsFloatFree := by
  obtain ⟨v, hv, _, hfloat⟩ := h.present row hrow
  rw [View.key_of_value hv]
  exact hfloat

theorem View.OfOneKind.isNull_key {row : Row} (hrow : row ∈ rows) :
    (view.key row).isNull = false := by
  obtain ⟨v, hv, hnull, _⟩ := h.present row hrow
  rw [View.key_of_value hv]
  exact hnull

end OfOneKind

section TellsApart

variable {view : View} {rows : List Row} (h : view.TellsApart rows)
include h

theorem View.TellsApart.isFloatFree {row : Row} (hrow : row ∈ rows) :
    (view.key row).IsFloatFree := h.ofOneKind.isFloatFree hrow

theorem View.TellsApart.strictly_sorted_sort (d : Direction) :
    (view.sort d rows).Pairwise fun a b => view.compare d a b = .lt := by
  refine StableSort.strictly_sorted_sort (view.isOrderOn d) (fun _ => h.isFloatFree) ?_
  cases d with
  | asc => exact h.distinct
  | desc =>
    refine h.distinct.imp_of_mem fun {a b} ha hb hne => ?_
    exact Value.isOrderOn_compare.ne_eq_symm (h.isFloatFree ha) (h.isFloatFree hb) hne

theorem View.TellsApart.sort_filter (d : Direction) (p : Row → Bool) :
    view.sort d (rows.filter p) = (view.sort d rows).filter p :=
  StableSort.sort_filter (view.isOrderOn d) (fun _ => h.isFloatFree) p

end TellsApart

/-! ### Sides of a value -/

section IsFaithful

variable {view : View} {rows : List Row} (hf : view.IsFaithful rows) {a b : Row} (ha : a ∈ rows)
  (d : Direction)
include hf ha

section Cursor

variable {c : Value} (hnull : c.isNull = false) (hkind : (view.key a).kind = c.kind)
include hnull hkind

theorem View.IsFaithful.lies_after_cursor :
    view.lies (Side.after d) c a = (d.compare c (view.key a) == .lt) := by
  rw [hf.lies a ha c hnull hkind]
  cases d with
  | asc =>
    rw [Direction.compare, ← Value.compare_swap (view.key a)]
    cases (view.key a).compare c <;> rfl
  | desc => rfl

theorem View.IsFaithful.lies_before_cursor :
    view.lies (Side.before d) c a = (d.compare (view.key a) c == .lt) := by
  rw [hf.lies a ha c hnull hkind]
  cases d with
  | asc => rfl
  | desc =>
    rw [Direction.compare, ← Value.compare_swap (view.key a)]
    cases (view.key a).compare c <;> rfl

end Cursor

variable (h : view.OfOneKind rows) (hb : b ∈ rows)
include h hb

theorem View.IsFaithful.lies_after :
    view.lies (Side.after d) (view.key b) a = (view.compare d b a == .lt) :=
  hf.lies_after_cursor ha d (h.isNull_key hb) (h.kind a ha b hb)

theorem View.IsFaithful.lies_before :
    view.lies (Side.before d) (view.key b) a = (view.compare d a b == .lt) :=
  hf.lies_before_cursor ha d (h.isNull_key hb) (h.kind a ha b hb)

end IsFaithful

/-! ### The two stores -/

theorem Side.ordering_ne_eq (side : Side) : side.ordering ≠ .eq := by cases side <;> decide

theorem eq_null_of_kind {v : Value} (h : v.kind = .null) : v = .null := by
  cases v <;> first | rfl | simp [Value.kind] at h

theorem isNull_of_kind_ne {v : Value} (h : v.kind ≠ .null) : v.isNull = false := by
  cases v <;> first | rfl | exact absurd rfl h

/-- A value of the operand's kind meets a strict range condition as it is: a list is met by its items
only where the operand is none. Null meets no condition, and lies on no side of null. -/
theorem isOrdered_of_kind {value : Option Value} {operand : Value}
    (hkind : (value.getD .null).kind = operand.kind) (side : Side) :
    Document.isOrdered (· == side.ordering) value operand =
      ((value.getD .null).compare operand == side.ordering) := by
  by_cases hnull : operand.kind = .null
  · have hvalue := eq_null_of_kind (hkind.trans hnull)
    rw [hvalue, eq_null_of_kind hnull, Value.compare_self, beq_false_of_ne side.ordering_ne_eq.symm]
    cases value with
    | none => rfl
    | some v =>
      rw [Option.getD_some] at hvalue
      rw [hvalue]
      rfl
  · cases value with
    | none => exact absurd hkind.symm hnull
    | some v =>
      rw [Option.getD_some] at hkind ⊢
      have hcompares : Document.comparesAs (· == side.ordering) operand v =
          (v.compare operand == side.ordering) := by
        have hpresent : v.isNull = false := isNull_of_kind_ne (hkind ▸ hnull)
        rw [Document.comparesAs, hpresent, Value.sameKind, decide_eq_true hkind]
        rfl
      cases v with
      | list items =>
        have hlist : operand.isList = true := by
          cases operand <;> first | rfl | simp [Value.kind] at hkind
        rw [Document.isOrdered, hlist, if_pos rfl]
        exact hcompares
      | _ => exact hcompares

theorem compareCell_of_kind {cell : Option Value} {operand : Value}
    (hkind : (cell.getD .null).kind = operand.kind) (side : Side) :
    (Table.compareCell side.comparison operand cell == some true) =
      ((cell.getD .null).compare operand == side.ordering) := by
  by_cases hnull : operand.kind = .null
  · rw [eq_null_of_kind (hkind.trans hnull), eq_null_of_kind hnull, Value.compare_self,
      beq_false_of_ne side.ordering_ne_eq.symm]
    cases cell with
    | none => rfl
    | some v => simp [Table.compareCell, Value.isNull]
  · cases cell with
    | none => exact absurd hkind.symm hnull
    | some v =>
      rw [Option.getD_some] at hkind ⊢
      have hpresent : v.isNull = false := isNull_of_kind_ne (hkind ▸ hnull)
      rw [Table.compareCell, hpresent, isNull_of_kind_ne hnull]
      cases side <;> simp [Side.comparison, Side.ordering, Table.compareValues, Value.sameKind,
        hkind, Table.admits]

/-- On rows of its own kind a value bounds by the order of the sort. -/
theorem Source.lies_of_kind (source : Source) (field : String) {row : Row} {c : Value}
    (h : ((source.view field).key row).kind = c.kind) (side : Side) :
    (source.view field).lies side c row =
      (((source.view field).key row).compare c == side.ordering) := by
  cases source with
  | documents store => exact isOrdered_of_kind h side
  | rows table base ctx => exact compareCell_of_kind h side

theorem mem_of_select {table : Table} {q : Table.Query} {rows : List Row}
    (h : table.select q = .ok rows) : ∀ row ∈ rows, row ∈ table.rows := by
  intro row hrow
  rw [(select_eq_ok h).2] at hrow
  exact (List.mem_filter.1 hrow).1

/-- The value at the edge of a page is the one that the row is sorted by. -/
theorem Source.edge_of_value {cfg : Config} {source : Source} {filter : Value} {field : String}
    {rows : List Row} (hs : source.Sorts field) (hm : source.matching cfg filter = .ok rows)
    {row : Row} (hrow : row ∈ rows) {v : Value} (hv : (source.view field).value row = some v) :
    (source.view field).edge row = some v := by
  cases source with
  | documents store => exact sortValue_of_lookup hv
  | rows table base ctx =>
    obtain ⟨hcolumn, htable, hflat, _⟩ := hs
    have hfind : Fields.find? row (ctx.columnName field) = some v := by
      have hmem := mem_of_select hm row hrow
      rw [← Table.resolve_qualifiedName (hflat row hmem) htable hcolumn]
      exact hv
    exact sortValue_of_lookup ((Value.lookup_of_not_mem row _ hcolumn).trans hfind)

/-- Where the rows of a source are told apart, a page is made of them alone. -/
theorem Source.byCursor_eq_page {cfg : Config} {source : Source} {r : CursorRequest}
    {rows : List Row} (hs : source.Sorts r.sortField)
    (hm : source.matching cfg r.filter = .ok rows)
    (hc : ∀ c, r.cursor = some c →
      ∀ row ∈ rows, ((source.view r.sortField).key row).kind = c.kind) :
    source.byCursor cfg r =
      .ok ((source.view r.sortField).page r (cfg.resolveLimit r.limit).toNat rows) := by
  cases source with
  | documents store =>
    refine documentsByCursor_eq_page hs hm fun c hcursor => ?_
    refine documentCursor_of_select cfg hs hm ?_
    by_cases hdate : c.kind = .date
    · exact .inl hdate
    · refine .inr fun row hrow t ht => hdate ?_
      have hkey : ((Source.documents store).view r.sortField).key row = .date t :=
        View.key_of_value ht
      rw [← hc c hcursor row hrow, hkey]
      rfl
  | rows table base ctx => exact rowsByCursor_eq_page hs hm

theorem Source.isFaithful_view {cfg : Config} {source : Source} {filter : Value} {field : String}
    {rows : List Row} (hs : source.Sorts field) (hm : source.matching cfg filter = .ok rows)
    (h : (source.view field).OfOneKind rows) : (source.view field).IsFaithful rows := by
  constructor
  · intro row hrow
    obtain ⟨v, hv, _, _⟩ := h.present row hrow
    rw [View.key_of_value hv]
    exact Source.edge_of_value hs hm hrow hv
  · intro row _ c _ hkind side
    exact source.lies_of_kind field hkind side

end PagedFilter.Page
