import PagedFilter.Document.Compile
import PagedFilter.Filter.Canonical
import PagedFilter.Filter.Dates
import PagedFilter.Page.Config
import PagedFilter.Table.Compile
import PagedFilter.Table.Query
import PagedFilter.Value.Path

/-!
From the filter of a request to that of a store, and from a row to the value it was sorted by.
-/

namespace PagedFilter.Page

/-- The document filter of a raw filter: canonical, compiled, and with dates if they are to be read. -/
def documentFilter (cfg : Config) (raw : Value) : Value :=
  let compiled := Document.compile (Filter.normalize raw)
  if cfg.castDates then Filter.castDates compiled else compiled

def narrow (base : Table.Query) (raw : Value) (ctx : Table.Context) : Table.Query :=
  base.filter (Table.compile ctx (some base.table) (Filter.normalize raw))

def lastSegment (name : String) : String :=
  String.ofList ((Text.segments '.' name.toList).getLastD [])

/-- The value of a row under a sort field: under the whole path, else under its last name. -/
def sortValue (row : Row) (field : String) : Option Value :=
  match Value.lookup row field with
  | some v => some v
  | none => Fields.find? row (lastSegment field)

theorem sortValue_of_lookup {row : Row} {field : String} {v : Value}
    (h : Value.lookup row field = some v) : sortValue row field = some v := by
  simp [sortValue, h]

theorem lastSegment_of_not_mem {name : String} (h : '.' ∉ name.toList) : lastSegment name = name := by
  rw [lastSegment, Text.segments_of_not_mem _ _ h]
  exact String.ofList_toList

/-- Under a name without points the value of a row is that of its field. -/
theorem sortValue_of_not_mem (row : Row) {field : String} (h : '.' ∉ field.toList) :
    sortValue row field = Fields.find? row field := by
  rw [sortValue, Value.lookup_of_not_mem row field h, lastSegment_of_not_mem h]
  cases Fields.find? row field <;> rfl

example : lastSegment "users.createdAt" = "createdAt" := by decide +kernel

end PagedFilter.Page
