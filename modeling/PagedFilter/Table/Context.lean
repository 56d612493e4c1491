import PagedFilter.Text.Quoted
import PagedFilter.Text.Snake

/-!
How the fields of a filter name the columns of a table: by a renaming, and qualified with the name of
the table unless the renamed field has a point already.
-/

namespace PagedFilter.Table

structure Context where
  /-- The table's name, in place of the query's own. -/
  table : Option String
  rename : String → String

namespace Context

/-- Fields name columns as they are. -/
def default : Context := ⟨none, id⟩

def withTable (ctx : Context) (table : String) : Context := { ctx with table := some table }

/-- Renames fields to snake case, or not at all. -/
def withSnakeCase (ctx : Context) (enabled : Bool) : Context :=
  { ctx with rename := if enabled then Text.snake else id }

/-- The column of a field, without its table. -/
def columnName (ctx : Context) (field : String) : String := ctx.rename field

/-- The column of a field, with the context's table or else the given one in front. -/
def qualifiedName (ctx : Context) (field : String) (table : Option String) : String :=
  match ctx.table <|> table with
  | some t =>
    if (ctx.columnName field).toList.contains '.' then ctx.columnName field
    else t ++ "." ++ ctx.columnName field
  | none => ctx.columnName field

/-- The context as diagnostics show it; the renaming has no text. -/
def describe (ctx : Context) : String :=
  let table := match ctx.table with
    | some t => "Some(" ++ Text.quoted t ++ ")"
    | none => "None"
  "RelationalContext \x7b table_name: " ++ table ++ ", .. \x7d"

theorem qualifiedName_no_table (field : String) :
    default.qualifiedName field none = field := rfl

theorem qualifiedName_of_mem (ctx : Context) (field : String) (table : Option String)
    (h : '.' ∈ (ctx.columnName field).toList) :
    ctx.qualifiedName field table = ctx.columnName field := by
  unfold qualifiedName
  split
  · simp [h]
  · rfl

end Context

end PagedFilter.Table
