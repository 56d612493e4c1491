import PagedFilter.Document.Collection
import PagedFilter.Page.Filter
import PagedFilter.Page.Shape

/-!
Paging by offset: a window of the sorted rows, and the count of all rows that match.
-/

namespace PagedFilter.Page

def documentsByOffset (cfg : Config) (store : Document.Collection) (r : OffsetRequest) :
    Except StoreError OffsetPage := do
  let limit := (cfg.resolveLimit r.limit).toNat
  let page := r.effectivePage
  let filter := documentFilter cfg r.filter
  let list ← store.find filter [(r.sortField, r.direction)] (OffsetPage.skipFor page limit)
    (some limit)
  let total ← store.count filter
  .ok (OffsetPage.assemble list total page limit)

/-- One page of a table's rows. The request narrows the base query. -/
def rowsByOffset (cfg : Config) (table : Table) (base : Table.Query) (r : OffsetRequest)
    (ctx : Table.Context) : Except StoreError OffsetPage := do
  let limit := (cfg.resolveLimit r.limit).toNat
  let page := r.effectivePage
  let filtered := narrow base r.filter ctx
  let column := ctx.qualifiedName r.sortField (some filtered.table)
  let windowed := ((filtered.orderBy column r.direction).withLimit limit).withOffset
    (OffsetPage.skipFor page limit)
  let list ← table.fetch windowed
  let total ← table.count filtered
  .ok (OffsetPage.assemble list total page limit)

end PagedFilter.Page
