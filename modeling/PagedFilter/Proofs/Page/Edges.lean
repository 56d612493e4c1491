import Mathlib.Data.List.Basic
import PagedFilter.Proofs.Page.Ordered

/-!
What the edges of a page say about the rows beyond it, for requests without a cursor. The rows are
sorted by an order of all values, and the probes at the edges compare a value with those of its own kind
alone. So an edge that is missing says nothing about rows of another kind, and nothing at all where the
row at the edge has no value to sort by, or null. Rows that are equal to the last row of a page and left
out of it lie on no side of its value.
-/

namespace PagedFilter.Page

/-! ### Probes -/

/-- Whether a row is sorted strictly beyond a value, on the way that a walk takes. -/
def View.Beyond (view : View) (d : Direction) : Towards → Value → Row → Prop
  | .next, v, row => d.compare v (view.key row) = .lt
  | .previous, v, row => d.compare (view.key row) v = .lt

instance (view : View) (d : Direction) :
    (t : Towards) → (v : Value) → (row : Row) → Decidable (view.Beyond d t v row)
  | .next, v, row => inferInstanceAs (Decidable (d.compare v (view.key row) = .lt))
  | .previous, v, row => inferInstanceAs (Decidable (d.compare (view.key row) v = .lt))

theorem edgeTowards_eq_none_iff (view : View) (side : Side) (rows : List Row)
    (edge : Option Value) : view.edgeTowards side rows edge = none ↔
      ∀ v, edge = some v → ∀ row ∈ rows, view.lies side v row = false := by
  simp only [Option.eq_none_iff_forall_ne_some, ne_eq, View.edgeTowards_eq_some_iff, not_and,
    not_exists, Bool.not_eq_true]

/-- Among values of its kind a value is probed for what the sort puts beyond it. -/
theorem Source.lies_iff_beyond (source : Source) (field : String) (d : Direction) (t : Towards)
    {v : Value} {row : Row} (h : ((source.view field).key row).kind = v.kind) :
    (source.view field).lies (Side.ofCursor d t) v row = true ↔
      (source.view field).Beyond d t v row := by
  have hswap := Value.compare_swap ((source.view field).key row) v
  rw [source.lies_of_kind field h, beq_iff_eq]
  cases d <;> cases t <;>
    simp only [View.Beyond, Direction.compare, Side.ofCursor, Side.ordering, ← hswap] <;>
    cases ((source.view field).key row).compare v <;> decide

/-- A value of another kind than the operand meets no range condition, except that a list meets one by
its items. -/
theorem isOrdered_of_ne_kind {value : Option Value} {operand : Value}
    (hkind : (value.getD .null).kind ≠ operand.kind) (hlist : (value.getD .null).kind ≠ .list)
    (wanted : Ordering → Bool) : Document.isOrdered wanted value operand = false := by
  cases value with
  | none => rfl
  | some v =>
    rw [Option.getD_some] at hkind hlist
    have hcompares : Document.comparesAs wanted operand v = false := by
      rw [Document.comparesAs, Value.sameKind, decide_eq_false hkind, Bool.and_false,
        Bool.false_and]
    cases v with
    | list items => exact absurd rfl hlist
    | _ => exact hcompares

theorem compareCell_of_ne_kind {cell : Option Value} {operand : Value}
    (hkind : (cell.getD .null).kind ≠ operand.kind) (side : Side) :
    (Table.compareCell side.comparison operand cell == some true) = false := by
  cases cell with
  | none => rfl
  | some v =>
    rw [Option.getD_some] at hkind
    have hvalues : Table.compareValues side.comparison v operand = none := by
      cases side <;> simp [Side.comparison, Table.compareValues, Value.sameKind, hkind]
    rw [Table.compareCell, hvalues, ite_self]
    rfl

theorem Source.lies_of_ne_kind (source : Source) (field : String) (side : Side) {v : Value}
    {row : Row} (h : ((source.view field).key row).kind ≠ v.kind)
    (hl : ((source.view field).key row).kind ≠ .list) :
    (source.view field).lies side v row = false := by
  cases source with
  | documents store => exact isOrdered_of_ne_kind h hl _
  | rows table base ctx => exact compareCell_of_ne_kind h side

/-! ### Edges -/

/-- What an edge of a page tells of the rows beyond it, where `x` is the row at that edge. The rows of
the kind of its value are none that the sort puts beyond it if there is no edge, and if these are none
there is no edge, as long as no row is sorted by a list. -/
structure TellsOfKind (view : View) (d : Direction) (t : Towards) (rows : List Row) (x : Row)
    (edge : Option Value) : Prop where
  own : ∀ v, edge = some v → view.edge x = some v
  missing : view.edge x = none → edge = none
  none_of_kind : edge = none → ∀ v, view.edge x = some v →
    ∀ row ∈ rows, (view.key row).kind = v.kind → ¬view.Beyond d t v row
  all_of_kind : (∀ row ∈ rows, (view.key row).kind ≠ .list) → ∀ v, view.edge x = some v →
    (∀ row ∈ rows, (view.key row).kind = v.kind → ¬view.Beyond d t v row) → edge = none

theorem tellsOfKind_edgeTowards (source : Source) (field : String) (d : Direction) (t : Towards)
    (rows : List Row) (x : Row) :
    TellsOfKind (source.view field) d t rows x
      ((source.view field).edgeTowards (Side.ofCursor d t) rows ((source.view field).edge x)) := by
  refine ⟨?_, ?_, ?_, ?_⟩
  · exact fun v hv => ((View.edgeTowards_eq_some_iff _ _ _ _ _).1 hv).1
  · intro hnone
    rw [hnone]
    rfl
  · intro hnone v hv row hrow hkind hbeyond
    have hlies := (edgeTowards_eq_none_iff _ _ _ _).1 hnone v hv row hrow
    rw [← source.lies_iff_beyond field d t hkind, hlies] at hbeyond
    exact Bool.false_ne_true hbeyond
  · intro hlists v hv hall
    rw [edgeTowards_eq_none_iff]
    intro w hw row hrow
    obtain rfl : v = w := Option.some.inj (hv.symm.trans hw)
    by_cases hkind : ((source.view field).key row).kind = v.kind
    · rw [← Bool.not_eq_true, source.lies_iff_beyond field d t hkind]
      exact hall row hrow hkind
    · exact source.lies_of_ne_kind field _ hkind (hlists row hrow)

/-! ### Pages without a cursor -/

theorem View.list_of_no_cursor (view : View) {r : CursorRequest} (limit : Nat) (rows : List Row)
    (h : r.cursor = none) :
    view.list r limit rows = inOrder r ((view.sort r.fetchDirection rows).take limit) := by
  rw [View.list, View.past, h]

/-- A page without a cursor shows the first rows of the sort, or going back the last ones, and each of
its edges tells of the rows whose sort values are of the kind of the value at that edge. -/
theorem edges_tell_of_one_kind (cfg : Config) (source : Source) (r : CursorRequest)
    {rows : List Row} (hs : source.Sorts r.sortField)
    (hm : source.matching cfg r.filter = .ok rows) (hcursor : r.cursor = none) :
    let view := source.view r.sortField
    ∃ page, source.byCursor cfg r = .ok page ∧
      page.list = inOrder r
        ((view.sort r.fetchDirection rows).take (cfg.resolveLimit r.limit).toNat) ∧
      page.totalCount = rows.length ∧
      (∀ row ∈ rows, ∀ v, view.value row = some v → view.key row = v ∧ view.edge row = some v) ∧
      (∀ last ∈ page.list.getLast?, TellsOfKind view r.direction .next rows last page.next) ∧
      ∀ first ∈ page.list.head?, TellsOfKind view r.direction .previous rows first page.previous := by
  intro view
  have hpage := Source.byCursor_eq_page hs hm (by simp [hcursor])
  rw [View.page_eq] at hpage
  refine ⟨_, hpage, View.list_of_no_cursor _ _ _ hcursor, rfl, ?_, ?_, ?_⟩
  · intro row hrow v hv
    exact ⟨View.key_of_value hv, Source.edge_of_value hs hm hrow hv⟩
  · intro last hlast
    simp only [Option.mem_def.1 hlast, Option.bind_some]
    exact tellsOfKind_edgeTowards source r.sortField r.direction .next rows last
  · intro first hfirst
    simp only [Option.mem_def.1 hfirst, Option.bind_some]
    exact tellsOfKind_edgeTowards source r.sortField r.direction .previous rows first

theorem edge_before_text :
    let row (v : Value) : Row := [("n", v)]
    let rows := [row (.int 3), row (.str "a"), row (.int 1)]
    let r : CursorRequest := ⟨.map [], "n", .asc, some 2, none, .next⟩
    ∃ page, (Source.documents (.ofList rows)).byCursor .default r = .ok page ∧
      page.list = [row (.int 1), row (.int 3)] ∧ page.totalCount = 3 ∧ page.next = none := by
  intro row rows r
  have hs : isNative "n" = false := by decide
  have hm : (Source.documents (.ofList rows)).matching .default r.filter = .ok rows := rfl
  obtain ⟨page, hfetch, hlist, htotal, _, hnext, _⟩ :=
    edges_tell_of_one_kind .default (.documents (.ofList rows)) r hs hm rfl
  have hshown : page.list = [row (.int 1), row (.int 3)] := hlist.trans (by decide +kernel)
  refine ⟨page, hfetch, hshown, htotal, ?_⟩
  have htells := hnext (row (.int 3)) (by rw [hshown]; rfl)
  exact htells.all_of_kind (by decide +kernel) (.int 3) rfl (by decide +kernel)

/-- A number before a text, null before a number and a row without a value before one with it: on pages
of one row the first page has no next one, but the other row is sorted behind. -/
theorem edge_ignores_other_kinds :
    let row (v : Value) : Row := [("n", v)]
    let r : CursorRequest := ⟨.map [], "n", .asc, some 1, none, .next⟩
    ∀ rows ∈ [(row (.int 1), row (.str "a")), (row .null, row (.int 2)), ([], row (.int 2))],
      ∀ source ∈ [Source.documents (.ofList [rows.1, rows.2]),
          .rows (.ofRows "t" [rows.1, rows.2]) (.ofTable "t") .default],
        source.byCursor .default r = .ok ⟨[rows.1], 2, ⟨"n", .asc⟩, none, none⟩ ∧
          (source.view r.sortField).compare .asc rows.1 rows.2 = .lt := by
  intro row r
  decide +kernel

/-! ### The first page -/

/-- On rows of one kind there is no edge towards the next page exactly if nothing is sorted behind. -/
theorem edgeTowards_after_eq_none_iff {view : View} {rows : List Row} (hf : view.IsFaithful rows)
    (h : view.OfOneKind rows) {last : Row} (hlast : last ∈ rows) (d : Direction) :
    view.edgeTowards (Side.after d) rows (view.edge last) = none ↔
      ∀ row ∈ rows, view.compare d last row ≠ .lt := by
  rw [edgeTowards_eq_none_iff, hf.edge last hlast]
  simp only [Option.some.injEq, forall_eq']
  refine forall₂_congr fun row hrow => ?_
  rw [hf.lies_after hrow d h hlast, beq_eq_false_iff_ne]

/-- The first page has no next one exactly if all rows that it leaves out are equal to its last row. -/
theorem View.next_first_page_eq_none_iff {view : View} {rows : List Row} (hf : view.IsFaithful rows)
    (h : view.OfOneKind rows) {r : CursorRequest} {limit : Nat} (hlimit : 1 ≤ limit)
    (hlist : view.list r limit rows = (view.sort r.direction rows).take limit) :
    (view.page r limit rows).next = none ↔
      ((view.sort r.direction rows).take limit).length = rows.length ∨
        ∃ last ∈ ((view.sort r.direction rows).take limit).getLast?,
          ∀ row ∈ (view.sort r.direction rows).drop limit,
            view.compare r.direction last row = .eq := by
  have hmem : ∀ row, row ∈ rows ↔ row ∈ view.sort r.direction rows :=
    fun row => (StableSort.mem_sort _ rows row).symm
  have hlength : (view.sort r.direction rows).length = rows.length := StableSort.length_sort _ rows
  have hfloat : ∀ row ∈ view.sort r.direction rows, (view.key row).IsFloatFree :=
    fun row hrow => h.isFloatFree ((hmem row).2 hrow)
  have hascending := StableSort.pairwise_sort (view.isOrderOn r.direction)
    fun row => h.isFloatFree
  cases hlast : ((view.sort r.direction rows).take limit).getLast? with
  | none =>
    have hnil := List.getLast?_eq_none_iff.1 hlast
    have hrows : rows.length = 0 := by
      rcases List.take_eq_nil_iff.1 hnil with hzero | hempty
      · omega
      · rw [← hlength, hempty]
        rfl
    have hnext : (view.page r limit rows).next = none := by
      rw [View.page_eq, hlist, hnil]
      rfl
    exact iff_of_true hnext (.inl (by rw [hnil, hrows]; rfl))
  | some last =>
    have hrow : last ∈ rows :=
      (hmem last).2 (List.mem_of_mem_take (List.mem_of_getLast? hlast))
    have hties := StableSort.not_lt_of_getLast?_take_iff (view.isOrderOn r.direction) hfloat
      hascending hlast
    simp only [View.page_eq, hlist, hlast, Option.bind_some]
    rw [edgeTowards_after_eq_none_iff hf h hrow]
    simp only [hmem]
    rw [hties]
    constructor
    · intro hall
      exact .inr ⟨last, rfl, hall⟩
    · rintro (hcomplete | ⟨other, hother, hall⟩)
      · have hdrop : (view.sort r.direction rows).drop limit = [] := by
          rw [List.length_take, ← hlength] at hcomplete
          exact List.drop_eq_nil_of_le (by omega)
        rw [hdrop]
        exact List.forall_mem_nil _
      · rw [Option.some.inj hother]
        exact hall

/-- On rows of one kind, tied or not, the first page shows the first rows of the sort, and has a next
page unless all rows that it leaves out are equal to its last row in the sort. -/
theorem first_page_leaves_out_ties (cfg : Config) (source : Source) (r : CursorRequest)
    {rows : List Row} (hs : source.Sorts r.sortField)
    (hm : source.matching cfg r.filter = .ok rows)
    (h : (source.view r.sortField).OfOneKind rows) (hcursor : r.cursor = none)
    (htowards : r.towards = .next) :
    let view := source.view r.sortField
    let sorted := view.sort r.direction rows
    let limit := (cfg.resolveLimit r.limit).toNat
    StableSort.IsStableOrder (view.compare r.direction) rows sorted ∧
      ∃ page, source.byCursor cfg r = .ok page ∧ page.list = sorted.take limit ∧
        page.totalCount = rows.length ∧
        (page.next = none ↔ page.list.length = page.totalCount ∨
          ∃ last ∈ page.list.getLast?, ∀ row ∈ sorted.drop limit,
            view.compare r.direction last row = .eq) := by
  intro view sorted limit
  have hstable := StableSort.isStableOrder_sort (view.isOrderOn r.direction)
    fun row => h.isFloatFree
  have hpage := Source.byCursor_eq_page hs hm (by simp [hcursor])
  have hlist : view.list r limit rows = sorted.take limit := by
    rw [View.list_of_no_cursor _ _ _ hcursor, inOrder, CursorRequest.fetchDirection, htowards]
  have hnext := View.next_first_page_eq_none_iff (source.isFaithful_view hs hm h) h
    (one_le_resolveLimit cfg r.limit) hlist
  have hshown : (view.page r limit rows).list = sorted.take limit :=
    (congrArg CursorPage.list (View.page_eq view r limit rows)).trans hlist
  have htotal : (view.page r limit rows).totalCount = rows.length :=
    congrArg CursorPage.totalCount (View.page_eq view r limit rows)
  refine ⟨hstable, _, hpage, hshown, htotal, ?_⟩
  rw [hshown, htotal]
  exact hnext

theorem first_page_of_tied_scores :
    let rows := [(1, 4), (2, 4), (3, 7)].map fun (x : Int64 × Int64) =>
      [("id", Value.int x.1), ("score", Value.int x.2)]
    let r : CursorRequest := ⟨.map [], "score", .asc, some 2, none, .next⟩
    ∃ page, (Source.documents (.ofList rows)).byCursor .default r = .ok page ∧
      page.list = rows.take 2 ∧ page.next ≠ none := by
  intro rows r
  have hs : isNative "score" = false := by decide
  have hm : (Source.documents (.ofList rows)).matching .default r.filter = .ok rows := rfl
  have h : ((Source.documents (.ofList rows)).view r.sortField).OfOneKind rows :=
    View.ofOneKind_map (fun _ => rfl) _
  obtain ⟨_, page, hfetch, hlist, htotal, hnext⟩ :=
    first_page_leaves_out_ties .default (.documents (.ofList rows)) r hs hm h rfl rfl
  have hshown : page.list = rows.take 2 := hlist.trans (by decide +kernel)
  refine ⟨page, hfetch, hshown, fun hnone => ?_⟩
  rw [hnext, hshown, htotal] at hnone
  revert hnone
  decide +kernel

/-- Three rows with one value, and a page of two: it has no next one, but it does not show the third
row. -/
theorem first_page_hides_tied_row :
    let rows : List Row := [1, 2, 3].map fun id => [("id", .int id), ("n", .int 1)]
    let r : CursorRequest := ⟨.map [], "n", .asc, some 2, none, .next⟩
    ∀ source ∈ [Source.documents (.ofList rows), .rows (.ofRows "t" rows) (.ofTable "t") .default],
      (∀ row ∈ rows, (source.view r.sortField).value row = some (.int 1)) ∧
        source.byCursor .default r = .ok ⟨rows.take 2, 3, ⟨"n", .asc⟩, none, none⟩ := by
  intro rows r
  exact List.forall_mem_cons.2 ⟨by decide +kernel, List.forall_mem_singleton.2 (by decide +kernel)⟩

end PagedFilter.Page
