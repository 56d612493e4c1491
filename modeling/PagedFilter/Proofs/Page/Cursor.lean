import Mathlib.Data.List.DropRight
import PagedFilter.Proofs.Page.Ordered

/-!
What a page by cursor shows, going either way and from any cursor: of the rows strictly past the
cursor the nearest ones, in the order of the sort, and at its edges where other rows lie beyond.
-/

namespace PagedFilter.Page

/-! ### Rows past a cursor -/

/-- Whether a row stands past the cursor of a request in the direction it goes. Without a cursor
every row does. -/
def View.isPast (view : View) (r : CursorRequest) (row : Row) : Bool :=
  match r.cursor, r.towards with
  | none, _ => true
  | some c, .next => r.direction.compare c (view.key row) == .lt
  | some c, .previous => r.direction.compare (view.key row) c == .lt

/-- Those of the rows past a cursor that a page has room for: the first ones, or going back the last
ones. -/
def CursorRequest.nearest (r : CursorRequest) (limit : Nat) (rows : List Row) : List Row :=
  match r.towards with
  | .next => rows.take limit
  | .previous => rows.rtake limit

theorem mem_of_mem_nearest {r : CursorRequest} {limit : Nat} {rows : List Row} {row : Row}
    (h : row ∈ r.nearest limit rows) : row ∈ rows := by
  rw [CursorRequest.nearest] at h
  cases ht : r.towards with
  | next =>
    rw [ht] at h
    exact List.mem_of_mem_take h
  | previous =>
    rw [ht] at h
    exact List.mem_of_mem_drop h

theorem isNull_of_kind {v c : Value} (hv : v.isNull = false) (hkind : v.kind = c.kind) :
    c.isNull = false := by
  cases c <;> first | rfl | (cases v <;> simp [Value.kind, Value.isNull] at hv hkind)

theorem View.compare_reversed (view : View) (d : Direction) (a b : Row) :
    view.compare d.reversed a b = view.compare d b a :=
  Direction.compare_reversed d _ _

section Past

variable {view : View} {rows : List Row} (h : view.OfOneKind rows) (hf : view.IsFaithful rows)
  {r : CursorRequest}
  (hc : ∀ c, r.cursor = some c → ∀ row ∈ rows, (view.key row).kind = c.kind)
include h hf hc

theorem View.past_eq_filter : view.past r rows = rows.filter (view.isPast r) := by
  rw [View.past]
  cases hcursor : r.cursor with
  | none =>
    refine (List.filter_eq_self.2 fun row _ => ?_).symm
    rw [View.isPast, hcursor]
  | some c =>
    refine List.filter_congr fun row hrow => ?_
    have hkind := hc c hcursor row hrow
    have hnull := isNull_of_kind (h.isNull_key hrow) hkind
    rw [View.isPast, hcursor]
    cases r.towards with
    | next => exact hf.lies_after_cursor hrow r.direction hnull hkind
    | previous => exact hf.lies_before_cursor hrow r.direction hnull hkind

end Past

section List

variable {view : View} {rows : List Row} (h : view.TellsApart rows)
include h

/-- Against the sort the rows stand the other way round. -/
theorem View.TellsApart.sort_reversed (d : Direction) :
    view.sort d.reversed rows = (view.sort d rows).reverse := by
  have hperm : (view.sort d.reversed rows).Perm (view.sort d rows).reverse :=
    (StableSort.sort_perm _ rows).trans
      ((StableSort.sort_perm _ rows).symm.trans (List.reverse_perm _).symm)
  have hfloat : ∀ row ∈ view.sort d.reversed rows, (view.key row).IsFloatFree :=
    fun row hrow => h.isFloatFree ((StableSort.mem_sort _ rows row).1 hrow)
  have hreverse : (view.sort d rows).reverse.Pairwise fun a b =>
      view.compare d.reversed a b = .lt := by
    simp only [View.compare_reversed]
    exact List.pairwise_reverse.2 (h.strictly_sorted_sort d)
  exact StableSort.eq_of_strictly_sorted (view.isOrderOn d.reversed) hfloat hperm
    (h.strictly_sorted_sort d.reversed) hreverse

variable (hf : view.IsFaithful rows) {r : CursorRequest}
  (hc : ∀ c, r.cursor = some c → ∀ row ∈ rows, (view.key row).kind = c.kind)
include hf hc

/-- The rows of a page, whichever way they were fetched. -/
theorem View.list_eq_nearest (limit : Nat) : view.list r limit rows =
    r.nearest limit ((view.sort r.direction rows).filter (view.isPast r)) := by
  rw [View.list, View.past_eq_filter h.ofOneKind hf hc, h.sort_filter, inOrder, CursorRequest.nearest,
    CursorRequest.fetchDirection]
  cases r.towards with
  | next => rfl
  | previous =>
    simp only [h.sort_reversed, List.filter_reverse]
    exact (List.rtake_eq_reverse_take_reverse _ _).symm

end List

/-! ### Edges -/

section Edges

variable {view : View} {rows : List Row} (hf : view.IsFaithful rows) (h : view.OfOneKind rows)
  {x : Row} (hx : x ∈ rows) (d : Direction)
include hf h hx

theorem edgeTowards_before_eq_some_iff (v : Value) :
    view.edgeTowards (Side.before d) rows (view.edge x) = some v ↔
      v = view.key x ∧ ∃ row ∈ rows, view.compare d row x = .lt := by
  rw [View.edgeTowards_eq_some_iff, hf.edge x hx, Option.some.injEq, eq_comm]
  refine and_congr_right fun hv => exists_congr fun row => and_congr_right fun hrow => ?_
  rw [hv, hf.lies_before hrow d h hx, beq_iff_eq]

theorem edgeTowards_after_eq_some_iff (v : Value) :
    view.edgeTowards (Side.after d) rows (view.edge x) = some v ↔
      v = view.key x ∧ ∃ row ∈ rows, view.compare d x row = .lt := by
  rw [View.edgeTowards_eq_some_iff, hf.edge x hx, Option.some.injEq, eq_comm]
  refine and_congr_right fun hv => exists_congr fun row => and_congr_right fun hrow => ?_
  rw [hv, hf.lies_after hrow d h hx, beq_iff_eq]

end Edges

/-! ### Pages -/

/-- What a page is to show of sorted rows: those past the cursor that it has room for, the count of
all rows, and the sort value at an edge exactly if a row lies beyond it. -/
structure ShowsNearest (view : View) (r : CursorRequest) (limit : Nat) (sorted : List Row)
    (page : CursorPage) : Prop where
  list : page.list = r.nearest limit (sorted.filter (view.isPast r))
  totalCount : page.totalCount = sorted.length
  order : page.order = ⟨r.sortField, r.direction⟩
  noEdges : page.list = [] → page.previous = none ∧ page.next = none
  previous : ∀ first ∈ page.list.head?, ∀ v, page.previous = some v ↔
    v = view.key first ∧ ∃ row ∈ sorted, view.compare r.direction row first = .lt
  next : ∀ last ∈ page.list.getLast?, ∀ v, page.next = some v ↔
    v = view.key last ∧ ∃ row ∈ sorted, view.compare r.direction last row = .lt

theorem showsNearest_page {view : View} {rows : List Row} (hf : view.IsFaithful rows)
    (h : view.TellsApart rows) {r : CursorRequest} (limit : Nat)
    (hc : ∀ c, r.cursor = some c → ∀ row ∈ rows, (view.key row).kind = c.kind) :
    ShowsNearest view r limit (view.sort r.direction rows) (view.page r limit rows) := by
  have hlist := View.list_eq_nearest h hf hc limit
  have hmem : ∀ row ∈ view.list r limit rows, row ∈ rows := by
    intro row hrow
    rw [hlist] at hrow
    have hsorted := List.mem_of_mem_filter (mem_of_mem_nearest hrow)
    exact (StableSort.mem_sort _ rows row).1 hsorted
  have hlength : (view.sort r.direction rows).length = rows.length := StableSort.length_sort _ rows
  rw [View.page_eq]
  refine ⟨hlist, hlength.symm, rfl, ?_, ?_, ?_⟩
  · intro (hnil : view.list r limit rows = [])
    simp only [hnil, List.head?_nil, List.getLast?_nil, Option.bind_none]
    exact ⟨rfl, rfl⟩
  · intro first hfirst v
    have hrow := hmem first (List.mem_of_mem_head? hfirst)
    simp only [Option.mem_def.1 hfirst, Option.bind_some, StableSort.mem_sort, View.sort]
    exact edgeTowards_before_eq_some_iff hf h.ofOneKind hrow r.direction v
  · intro last hlast v
    have hrow := hmem last (List.mem_of_getLast? hlast)
    simp only [Option.mem_def.1 hlast, Option.bind_some, StableSort.mem_sort, View.sort]
    exact edgeTowards_after_eq_some_iff hf h.ofOneKind hrow r.direction v

/-- A page by cursor shows the rows nearest to its cursor, whichever way it goes and whether or not
the cursor is the value of a row. -/
theorem byCursor_shows_nearest_rows (cfg : Config) (source : Source) (r : CursorRequest)
    {rows : List Row} (hs : source.Sorts r.sortField)
    (hm : source.matching cfg r.filter = .ok rows)
    (h : (source.view r.sortField).TellsApart rows)
    (hc : ∀ c, r.cursor = some c →
      ∀ row ∈ rows, ((source.view r.sortField).key row).kind = c.kind) :
    let view := source.view r.sortField
    let sorted := view.sort r.direction rows
    sorted.Perm rows ∧ (sorted.Pairwise fun a b => view.compare r.direction a b = .lt) ∧
      ∃ page, source.byCursor cfg r = .ok page ∧
        ShowsNearest view r (cfg.resolveLimit r.limit).toNat sorted page := by
  intro view sorted
  have hf := source.isFaithful_view hs hm h.ofOneKind
  have hpage := Source.byCursor_eq_page hs hm hc
  exact ⟨StableSort.sort_perm _ rows, h.strictly_sorted_sort r.direction, _, hpage,
    showsNearest_page hf h _ hc⟩

theorem page_back_from_three :
    let store := Document.Collection.ofList
      ([7, 2, -1, 5].map fun n => [("score", Value.int n)])
    let r : CursorRequest := ⟨.map [("score", .map [("gt", .int 0)])], "score", .desc, some 1,
      some (.int 3), .previous⟩
    ∃ page, (Source.documents store).byCursor .default r = .ok page ∧
      page.list = [[("score", .int 5)]] ∧ page.totalCount = 3 ∧ page.previous = some (.int 5) ∧
        page.next = some (.int 5) := by
  intro store r
  have hm : (Source.documents store).matching .default r.filter =
      .ok ([7, 2, 5].map fun n => [("score", Value.int n)]) := rfl
  have hs : isNative "score" = false := by decide
  have h : ((Source.documents store).view r.sortField).TellsApart
      ([7, 2, 5].map fun n => [("score", Value.int n)]) :=
    View.tellsApart_map (by decide) fun n => rfl
  have hc : ∀ c, r.cursor = some c → ∀ row ∈ [7, 2, 5].map fun n => [("score", Value.int n)],
      (((Source.documents store).view r.sortField).key row).kind = c.kind := by
    intro c hcursor row hrow
    obtain ⟨n, _, rfl⟩ := List.mem_map.1 hrow
    rw [← Option.some.inj hcursor]
    rfl
  obtain ⟨_, _, page, hfetch, hpage⟩ :=
    byCursor_shows_nearest_rows .default (.documents store) r hs hm h hc
  have hlist : page.list = [[("score", .int 5)]] := hpage.list.trans (by decide +kernel)
  refine ⟨page, hfetch, hlist, hpage.totalCount.trans (by decide +kernel), ?_, ?_⟩
  · exact (hpage.previous _ (by rw [hlist]; rfl) _).2 (by decide +kernel)
  · exact (hpage.next _ (by rw [hlist]; rfl) _).2 (by decide +kernel)

end PagedFilter.Page
