import PagedFilter.StableSort
import PagedFilter.Table.Evaluate
import PagedFilter.Table.Sql

/-!
Queries and the tables that answer them. A query collects clauses, a sort and a window; it can be
written as SQL or run on the rows of a table. A table may be set to fail; then every query does.
Otherwise a query fails at the first fault of its clauses on a row.
-/

namespace PagedFilter

namespace Table

structure Query where
  table : String
  clauses : List Clause
  order : List SortKey
  limit : Option Nat
  offset : Option Nat
  deriving Repr

namespace Query

def ofTable (table : String) : Query := ⟨table, [], [], none, none⟩

/-- Adds clauses; groups without clauses are dropped. -/
def filter (q : Query) (clauses : List Clause) : Query :=
  { q with clauses := q.clauses ++ Clause.prune clauses }

def orderBy (q : Query) (column : String) (d : Direction) : Query :=
  { q with order := q.order ++ [(column, d)] }

def withLimit (q : Query) (n : Nat) : Query := { q with limit := some n }

def withOffset (q : Query) (n : Nat) : Query := { q with offset := some n }

/-- A bound of a window as a value, at most the greatest integer. -/
def boundValue (n : Nat) : Value := .int (Int64.ofNat (min n (2 ^ 63 - 1)))

/-- The text that selects the rows of the window, in order. -/
def sql (q : Query) : String :=
  "select * from " ++ Sql.quoteName q.table ++ Sql.whereText q.clauses ++ Sql.orderText q.order ++
    (if q.limit.isSome then " limit ?" else "") ++ (if q.offset.isSome then " offset ?" else "")

def sqlBindings (q : Query) : List Value :=
  Sql.bindingsOfList q.clauses ++ (q.limit.map boundValue).toList ++
    (q.offset.map boundValue).toList

/-- The text that counts the rows, without order and window. -/
def countSql (q : Query) : String :=
  "select count(*) from " ++ Sql.quoteName q.table ++ Sql.whereText q.clauses

def countBindings (q : Query) : List Value := Sql.bindingsOfList q.clauses

theorem filter_filter (q : Query) (as bs : List Clause) :
    (q.filter as).filter bs = q.filter (as ++ bs) := by
  simp [filter, Clause.prune_append]

end Query

end Table

/-- A named table and its rows in the order of insertion. -/
structure Table where
  name : String
  rows : List Row
  failure : Option String
  deriving Repr

namespace Table

def ofRows (name : String) (rows : List Row) : Table := ⟨name, rows, none⟩

def insert (t : Table) (row : Row) : Table := { t with rows := t.rows ++ [row] }

def failWith (t : Table) (reason : String) : Table := { t with failure := some reason }

def clearFailure (t : Table) : Table := { t with failure := none }

def query (t : Table) : Query := Query.ofTable t.name

/-- The rows that the clauses of a query select, in the order of insertion. -/
def select (t : Table) (q : Query) : Except StoreError (List Row) :=
  match t.failure with
  | some reason => .error (.backend reason)
  | none =>
    match t.rows.findSome? (Clause.faultOfList? · q.clauses) with
    | some operand => .error (.invalidPattern operand)
    | none => .ok (t.rows.filter (selects q.clauses))

/-- How many rows a query selects, its window aside. -/
def count (t : Table) (q : Query) : Except StoreError Nat := (t.select q).map List.length

/-- The rows of a query, sorted, and of these the window. -/
def fetch (t : Table) (q : Query) : Except StoreError (List Row) :=
  (t.select q).map fun rows =>
    window (q.offset.getD 0) q.limit (StableSort.sort (compareRows resolve q.order) rows)

end Table

end PagedFilter
