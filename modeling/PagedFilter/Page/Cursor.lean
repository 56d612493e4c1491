import PagedFilter.Document.Collection
import PagedFilter.Page.Bound
import PagedFilter.Page.Filter
import PagedFilter.Page.Shape
import PagedFilter.Value.Equality

/-!
Paging by cursor. A cursor is the sort value of a row at the edge of a page. A page holds the rows
strictly past the cursor; two probes tell whether rows lie in front of its first row and behind its
last one. Going back, rows are fetched against the sort and then turned around.
-/

namespace PagedFilter.Page

def inOrder (r : CursorRequest) (fetched : List Row) : List Row :=
  match r.towards with
  | .next => fetched
  | .previous => fetched.reverse

def edges (list : List Row) (field : String) : Option Value × Option Value :=
  (list.head?.bind (sortValue · field), list.getLast?.bind (sortValue · field))

def keepIf (beyond : Bool) (edge : Option Value) : Option Value := if beyond then edge else none

/-- A page from its rows, the count of all rows, and a probe for rows on one side of a value. The
probe in front of the first row comes first. -/
def pageOf (r : CursorRequest) (field : String) (list : List Row) (total : Nat)
    (probe : Side → Value → Except StoreError Bool) : Except StoreError CursorPage := do
  let (first, last) := edges list field
  let hasBefore ← match first with
    | some v => probe (Side.before r.direction) v
    | none => .ok false
  let hasAfter ← match last with
    | some v => probe (Side.after r.direction) v
    | none => .ok false
  .ok (CursorPage.assemble list total ⟨r.sortField, r.direction⟩ (keepIf hasBefore first)
    (keepIf hasAfter last))

/-! ### Documents -/

/-- Whether a document of the base lies on a side of a value. -/
def documentProbe (store : Document.Collection) (base : Value) (field : String) (side : Side)
    (v : Value) : Except StoreError Bool :=
  (store.find (documentBound base field side v) [] 0 (some 1)).map fun found => !found.isEmpty

/-- Whether the first document that has the field holds a date there. -/
def storesDates (store : Document.Collection) (base : Value) (field : String) :
    Except StoreError Bool :=
  (store.find (conjoin base [(field, .map [("$exists", .bool true)])]) [] 0 (some 1)).map
    fun found =>
      match found.head?.bind (sortValue · field) with
      | some (.date _) => true
      | _ => false

/-- The cursor as the bound compares it: a date-time string is read as a date only where the
collection holds dates. -/
def documentCursor (cfg : Config) (store : Document.Collection) (base : Value) (field : String)
    (cursor : Value) : Except StoreError Value :=
  let cast := Filter.castDates cursor
  if !cfg.castDates || Value.strictEq cast cursor then .ok cursor
  else (storesDates store base field).map fun dates => if dates then cast else cursor

def documentList (cfg : Config) (store : Document.Collection) (base : Value)
    (r : CursorRequest) : Except StoreError Value :=
  match r.cursor with
  | none => .ok base
  | some cursor =>
    (documentCursor cfg store base r.sortField cursor).map
      (documentBound base r.sortField (Side.ofCursor r.direction r.towards))

def documentsByCursor (cfg : Config) (store : Document.Collection) (r : CursorRequest) :
    Except StoreError CursorPage := do
  let limit := (cfg.resolveLimit r.limit).toNat
  let base := documentFilter cfg r.filter
  let listFilter ← documentList cfg store base r
  let fetched ← store.find listFilter [(r.sortField, r.fetchDirection)] 0 (some limit)
  let total ← store.count base
  pageOf r r.sortField (inOrder r fetched) total (documentProbe store base r.sortField)

/-! ### Rows of tables -/

def tableProbe (table : Table) (filtered : Table.Query) (column : String) (side : Side)
    (v : Value) : Except StoreError Bool :=
  (table.fetch ((filtered.filter [tableBound column side v]).withLimit 1)).map
    fun found => !found.isEmpty

def tableList (filtered : Table.Query) (column : String) (r : CursorRequest) : Table.Query :=
  match r.cursor with
  | none => filtered
  | some cursor =>
    filtered.filter [tableBound column (Side.ofCursor r.direction r.towards) cursor]

/-- One page of a table's rows. The request narrows the base query. -/
def rowsByCursor (cfg : Config) (table : Table) (base : Table.Query) (r : CursorRequest)
    (ctx : Table.Context) : Except StoreError CursorPage := do
  let limit := (cfg.resolveLimit r.limit).toNat
  let filtered := narrow base r.filter ctx
  let column := ctx.qualifiedName r.sortField (some filtered.table)
  let windowed := ((tableList filtered column r).orderBy column r.fetchDirection).withLimit limit
  let fetched ← table.fetch windowed
  let total ← table.count filtered
  pageOf r (ctx.columnName r.sortField) (inOrder r fetched) total
    (tableProbe table filtered column)

end PagedFilter.Page
