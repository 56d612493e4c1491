import PagedFilter.Table.Clause
import PagedFilter.Value.Basic
import PagedFilter.Vocabulary

/-!
Bounds on a sort field: the rows on one side of a value, strictly.
-/

namespace PagedFilter.Page

/-- The side of a value that a bound keeps. -/
inductive Side where
  | above | below
  deriving DecidableEq, Repr

namespace Side

def ofCursor (d : Direction) (towards : Towards) : Side :=
  match d, towards with
  | .asc, .next => above
  | .desc, .previous => above
  | .desc, .next => below
  | .asc, .previous => below

/-- The side of the rows in front of a value, in the order of the sort. -/
def before (d : Direction) : Side := ofCursor d .previous

/-- The side of the rows behind a value, in the order of the sort. -/
def after (d : Direction) : Side := ofCursor d .next

def operator : Side → Operator
  | above => .gt
  | below => .lt

def comparison : Side → Comparison
  | above => .gt
  | below => .lt

def symbol : Side → String
  | above => "$gt"
  | below => "$lt"

theorem symbol?_operator (s : Side) : s.operator.symbol? = some s.symbol := by cases s <;> rfl

theorem ofCursor_reversed (d : Direction) (t : Towards) :
    ofCursor d.reversed t ≠ ofCursor d t := by cases d <;> cases t <;> decide

end Side

/-- Both filters at once. A base that constrains nothing, or is no filter, leaves the clause. -/
def conjoin (base : Value) (clause : Fields Value) : Value :=
  match base with
  | .map [] => .map clause
  | .map fields => .map [("$and", .list [.map fields, .map clause])]
  | _ => .map clause

/-- A document filter for the documents of the base whose field lies on a side of a value. -/
def documentBound (base : Value) (field : String) (side : Side) (v : Value) : Value :=
  conjoin base [(field, .map [(side.symbol, v)])]

/-- The clause for the rows whose column lies on a side of a value. -/
def tableBound (column : String) (side : Side) (v : Value) : Table.Clause :=
  .compare column side.comparison v

theorem conjoin_emptyMap (clause : Fields Value) : conjoin .emptyMap clause = .map clause := rfl

end PagedFilter.Page
