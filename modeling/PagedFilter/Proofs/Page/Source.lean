import PagedFilter.Page.Cursor
import PagedFilter.Proofs.Page.Limits
import PagedFilter.Proofs.StableSort
import PagedFilter.Proofs.Table.Columns
import PagedFilter.Proofs.Value.Order

/-!
What pages are made of, whichever store answers: the rows that a filter selects, the value by which
they are sorted, and the test whether a row lies on a side of a value.
-/

namespace PagedFilter.Page

/-- How a source of rows looks at them under a sort field. -/
structure View where
  value : Row → Option Value
  /-- The value of a row at the edge of a page. -/
  edge : Row → Option Value
  lies : Side → Value → Row → Bool

/-- The ordering of the values on a side, compared with the value that bounds it. -/
def Side.ordering : Side → Ordering
  | .above => .gt
  | .below => .lt

namespace View

/-- The value that a row is sorted by; a missing one counts as null. -/
def key (view : View) (row : Row) : Value := (view.value row).getD .null

def compare (view : View) (d : Direction) (a b : Row) : Ordering :=
  d.compare (view.key a) (view.key b)

def sort (view : View) (d : Direction) (rows : List Row) : List Row :=
  StableSort.sort (view.compare d) rows

def past (view : View) (r : CursorRequest) (rows : List Row) : List Row :=
  match r.cursor with
  | none => rows
  | some c => rows.filter (view.lies (Side.ofCursor r.direction r.towards) c)

def list (view : View) (r : CursorRequest) (limit : Nat) (rows : List Row) : List Row :=
  inOrder r ((view.sort r.fetchDirection (view.past r rows)).take limit)

def edgeTowards (view : View) (side : Side) (rows : List Row) (edge : Option Value) :
    Option Value :=
  keepIf (edge.any fun v => rows.any (view.lies side v)) edge

/-- The page of a request over the rows that its filter selects. -/
def page (view : View) (r : CursorRequest) (limit : Nat) (rows : List Row) : CursorPage :=
  let list := view.list r limit rows
  CursorPage.assemble list rows.length ⟨r.sortField, r.direction⟩
    (view.edgeTowards (Side.before r.direction) rows (list.head?.bind view.edge))
    (view.edgeTowards (Side.after r.direction) rows (list.getLast?.bind view.edge))

end View

/-- A collection, or a table with a query on it that requests narrow. -/
inductive Source where
  | documents (store : Document.Collection)
  | rows (table : Table) (base : Table.Query) (ctx : Table.Context)

namespace Source

def byCursor (cfg : Config) : Source → CursorRequest → Except StoreError CursorPage
  | documents store, r => documentsByCursor cfg store r
  | rows table base ctx, r => rowsByCursor cfg table base r ctx

/-- The rows that a raw filter selects, in the order of insertion. It fails as counting them does. -/
def matching (cfg : Config) (filter : Value) : Source → Except StoreError (List Row)
  | documents store => store.select (documentFilter cfg filter)
  | rows table base ctx => table.select (narrow base filter ctx)

def view (field : String) : Source → View
  | documents _ =>
    { value := (Value.lookup · field)
      edge := (sortValue · field)
      lies := fun side v row =>
        Document.isOrdered (· == side.ordering) (Value.lookup row field) v }
  | rows _ base ctx =>
    let column := ctx.qualifiedName field (some base.table)
    { value := (Table.resolve · column)
      edge := (sortValue · (ctx.columnName field))
      lies := fun side v row =>
        Table.compareCell side.comparison v (Table.resolve row column) == some true }

/-- A sort field that is no native key; and for tables names without points, and a base query whose
clauses are joined by `and`, without order and offset. -/
def Sorts (field : String) : Source → Prop
  | documents _ => isNative field = false
  | rows table base ctx =>
    '.' ∉ (ctx.columnName field).toList ∧ '.' ∉ (ctx.table.getD base.table).toList ∧
      (∀ row ∈ table.rows, row.IsFlat) ∧ (∀ c ∈ base.clauses, c.connective = .and) ∧
        base.order = [] ∧ base.offset = none

end Source

/-! ### Rows of a page -/

section Rows

variable {view : View} {r : CursorRequest} {rows : List Row}

/-- A request without a cursor leaves no row behind. -/
theorem View.past_eq_filter_all : view.past r rows = rows.filter fun row =>
    r.cursor.all fun c => view.lies (Side.ofCursor r.direction r.towards) c row := by
  rw [View.past]
  cases r.cursor with
  | none => exact (List.filter_eq_self.2 fun _ _ => rfl).symm
  | some c => rfl

theorem View.mem_past (row : Row) : row ∈ view.past r rows ↔ row ∈ rows ∧
    ∀ c, r.cursor = some c → view.lies (Side.ofCursor r.direction r.towards) c row = true := by
  rw [View.past_eq_filter_all, List.mem_filter, Option.all_eq_true]

theorem mem_of_mem_inOrder {fetched : List Row} {row : Row} (h : row ∈ inOrder r fetched) :
    row ∈ fetched := by
  rw [inOrder] at h
  cases ht : r.towards with
  | next => simpa [ht] using h
  | previous => simpa [ht] using h

theorem View.mem_past_of_mem_list {limit : Nat} {row : Row} (h : row ∈ view.list r limit rows) :
    row ∈ view.past r rows := by
  have hsorted := List.mem_of_mem_take (mem_of_mem_inOrder h)
  exact (StableSort.mem_sort _ _ row).1 hsorted

end Rows

/-! ### Putting pages together -/

theorem compareRows_single (cell : Row → String → Option Value) (field : String) (d : Direction)
    (a b : Row) : compareRows cell [(field, d)] a b =
      d.compare ((cell a field).getD .null) ((cell b field).getD .null) := Ordering.then_eq

theorem compareRows_nil (cell : Row → String → Option Value) :
    compareRows cell [] = fun _ _ => .eq := by
  funext a b
  rfl

/-- One element is left if there is any. -/
theorem isEmpty_take_filter {α : Type} (test : α → Bool) (xs : List α) :
    (!((xs.filter test).take 1).isEmpty) = xs.any test := by
  induction xs with
  | nil => rfl
  | cons x rest ih =>
    cases hx : test x with
    | true => simp [hx]
    | false => rw [List.filter_cons_of_neg (by simp [hx]), ih, List.any_cons, hx, Bool.false_or]

theorem View.edgeTowards_eq_some_iff (view : View) (side : Side) (rows : List Row)
    (edge : Option Value) (v : Value) : view.edgeTowards side rows edge = some v ↔
      edge = some v ∧ ∃ row ∈ rows, view.lies side v row = true := by
  cases edge with
  | none => simp [View.edgeTowards, keepIf]
  | some w =>
    rw [View.edgeTowards, Option.any_some, keepIf, ← List.any_eq_true, Option.some.injEq]
    split
    · next hany =>
      rw [Option.some.injEq]
      exact ⟨fun h => ⟨h, h ▸ hany⟩, And.left⟩
    · next hany => exact iff_of_false (by simp) fun h => hany (h.1 ▸ h.2)

/-- Where a page shows no rows there is no value at its edges. -/
theorem View.page_eq (view : View) (r : CursorRequest) (limit : Nat) (rows : List Row) :
    view.page r limit rows =
      { list := view.list r limit rows
        totalCount := rows.length
        order := ⟨r.sortField, r.direction⟩
        next := view.edgeTowards (Side.after r.direction) rows
          ((view.list r limit rows).getLast?.bind view.edge)
        previous := view.edgeTowards (Side.before r.direction) rows
          ((view.list r limit rows).head?.bind view.edge) } := by
  rw [View.page, CursorPage.assemble]
  cases view.list r limit rows <;> rfl

theorem View.list_page (view : View) (r : CursorRequest) (limit : Nat) (rows : List Row) :
    (view.page r limit rows).list = view.list r limit rows := by rw [View.page_eq]

theorem pageOf_of_ok {r : CursorRequest} {field : String} {list : List Row} {total : Nat}
    {probe : Side → Value → Except StoreError Bool} {lies : Side → Value → Bool}
    (h : ∀ side v, probe side v = .ok (lies side v)) :
    pageOf r field list total probe =
      .ok (CursorPage.assemble list total ⟨r.sortField, r.direction⟩
        (keepIf ((list.head?.bind (sortValue · field)).any (lies (Side.before r.direction)))
          (list.head?.bind (sortValue · field)))
        (keepIf ((list.getLast?.bind (sortValue · field)).any (lies (Side.after r.direction)))
          (list.getLast?.bind (sortValue · field)))) := by
  rw [pageOf, edges]
  cases hfirst : list.head?.bind (sortValue · field) <;>
    cases hlast : list.getLast?.bind (sortValue · field) <;>
      simp [h, bind, Except.bind]

end PagedFilter.Page
