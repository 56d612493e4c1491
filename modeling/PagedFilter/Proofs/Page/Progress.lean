import PagedFilter.Proofs.Page.Visited

/-!
A walk over the rows of a table ends, whatever values the rows are sorted by: in ties, without a value,
with null, with values of several kinds. What lies past a cursor gets less with every page, because the
row that the cursor was read from no longer does.
-/

namespace PagedFilter

namespace Page

/-! ### What lies past a page -/

section Measure

variable {source : Source} {q : CursorRequest} {rows : List Row} (hq : q.towards = .next)
  (hfloat : ∀ row ∈ rows, ((source.view q.sortField).key row).IsFloatFree)
  (hitems : ∀ row ∈ rows, ¬source.ComparesItems ((source.view q.sortField).key row))
  (hc : ∀ c, q.cursor = some c → c.IsFloatFree) {last : Row}
  (hlast : last ∈ (source.view q.sortField).past q rows)
include hq hfloat hitems hc hlast

/-- Past the cursor of a page lie rows that its own cursor has left to it. -/
theorem mem_past_of_lies {row : Row} (hrow : row ∈ rows)
    (hlies : (source.view q.sortField).lies (Side.after q.direction)
      ((source.view q.sortField).key last) row = true) :
    row ∈ (source.view q.sortField).past q rows := by
  obtain ⟨hlastrow, hlastpast⟩ := (View.mem_past last).1 hlast
  refine (View.mem_past row).2 ⟨hrow, ?_⟩
  intro c hcursor
  have hside := hlastpast c hcursor
  rw [hq] at hside ⊢
  obtain ⟨hkind, hbehind⟩ := source.beyond_of_lies q.sortField hlies (hitems row hrow)
  obtain ⟨hlastkind, hlastbehind⟩ :=
    source.beyond_of_lies q.sortField hside (hitems last hlastrow)
  have hbeyond : q.direction.compare c ((source.view q.sortField).key row) = .lt := by
    apply (Direction.isOrderOn_compare q.direction).lt_of_not_gt_of_lt (hc c hcursor)
      (hfloat last hlastrow) (hfloat row hrow)
    · rw [hlastbehind]
      decide
    · exact hbehind
  exact (source.lies_iff_beyond q.sortField q.direction .next (hkind.trans hlastkind)).2 hbeyond

/-- Less lies past the next cursor: not the row that it was read from. -/
theorem length_past_after_lt : ((source.view q.sortField).past
      (q.after ((source.view q.sortField).key last)) rows).length <
    ((source.view q.sortField).past q rows).length := by
  have hlastrow := ((View.mem_past last).1 hlast).1
  have hpast : (source.view q.sortField).past
        (q.after ((source.view q.sortField).key last)) rows =
      ((source.view q.sortField).past q rows).filter
        ((source.view q.sortField).lies (Side.after q.direction)
          ((source.view q.sortField).key last)) := by
    rw [View.past_eq_filter_all (r := q), List.filter_filter]
    apply List.filter_congr
    intro row hrow
    have hnarrow := mem_past_of_lies hq hfloat hitems hc hlast hrow
    rw [View.past_eq_filter_all, List.mem_filter] at hnarrow
    exact (Bool.and_eq_left_iff_imp.2 fun hlies => (hnarrow hlies).2).symm
  rw [hpast, List.length_filter_lt_length_iff_exists]
  refine ⟨last, hlast, ?_⟩
  intro hlies
  have hbehind := (source.beyond_of_lies q.sortField hlies (hitems last hlastrow)).2
  rw [Direction.compare_self] at hbehind
  exact absurd hbehind (by decide)

end Measure

/-! ### The walk ends -/

section Ends

variable {cfg : Config} {source : Source} {rows : List Row}

/-- By what lies past the cursor, from which every page takes a row at least. -/
theorem exists_walk_of_passesOn {q : CursorRequest} (hq : q.towards = .next)
    (hs : source.Sorts q.sortField) (hm : source.matching cfg q.filter = .ok rows)
    (hpasses : source.PassesOn cfg q rows)
    (hfloat : ∀ row ∈ rows, ((source.view q.sortField).key row).IsFloatFree)
    (hitems : ∀ row ∈ rows, ¬source.ComparesItems ((source.view q.sortField).key row))
    (hc : ∀ c, q.cursor = some c → source.Keeps cfg q c ∧ c.IsFloatFree) :
    ∃ pages, Walk (source.byCursor cfg) CursorRequest.forward q pages ∧
      pages.length ≤ max 1 ((source.view q.sortField).past q rows).length := by
  have hpage := Source.byCursor_of_keeps hs hm fun c hcursor => (hc c hcursor).1
  have hcfloat : ∀ c, q.cursor = some c → c.IsFloatFree := fun c hcursor => (hc c hcursor).2
  cases hnext : ((source.view q.sortField).page q (cfg.resolveLimit q.limit).toNat rows).next with
  | none =>
    refine ⟨_, .last hpage ?_, Nat.le_max_left _ _⟩
    rw [CursorRequest.forward, hnext, Option.map_none]
  | some v =>
    obtain ⟨last, _, hpast, hedge, beyond, hbeyond, hlies⟩ := View.exists_last_of_next hnext
    have hlastrow := ((View.mem_past last).1 hpast).1
    have hkeeps := hpasses.keeps last hlastrow v hedge
    rw [hpasses.edge last hlastrow] at hedge
    obtain rfl := View.key_of_value hedge
    have hless := length_past_after_lt hq hfloat hitems hcfloat hpast
    have hcursor : ∀ c, some ((source.view q.sortField).key last) = some c →
        source.Keeps cfg q c ∧ c.IsFloatFree := by
      intro c hc
      rw [← Option.some.inj hc]
      exact ⟨hkeeps, hfloat last hlastrow⟩
    obtain ⟨pages, hwalk, hlength⟩ := exists_walk_of_passesOn
      (q := q.after ((source.view q.sortField).key last)) rfl hs hm ⟨hpasses.edge, hpasses.keeps⟩
      hfloat hitems hcursor
    refine ⟨_, .step hpage ?_ hwalk, ?_⟩
    · rw [CursorRequest.forward, hnext, Option.map_some]
    · have hleft : beyond ∈ (source.view q.sortField).past
          (q.after ((source.view q.sortField).key last)) rows :=
        View.mem_past_after hbeyond hlies
      have hpos := List.length_pos_of_mem hleft
      have hsame : (source.view (q.after ((source.view q.sortField).key last)).sortField) =
        source.view q.sortField := rfl
      rw [hsame] at hlength
      rw [List.length_cons]
      omega
termination_by ((source.view q.sortField).past q rows).length

end Ends

/-! ### Rows shown once, and in order -/

/-- Lists that share no element and each fit into a list fit into it one after the other. -/
theorem subperm_flatMap_of_disjoint {α : Type} [DecidableEq α] {xs : List α} {parts : List (List α)}
    (hfit : ∀ part ∈ parts, part.Subperm xs) (hdisjoint : parts.Pairwise List.Disjoint) :
    parts.flatten.Subperm xs := by
  induction parts with
  | nil => exact List.nil_subperm
  | cons part rest ih =>
    obtain ⟨hpart, hrest⟩ := List.forall_mem_cons.1 hfit
    obtain ⟨happart, hdisjoint⟩ := List.pairwise_cons.1 hdisjoint
    have hflat := ih hrest hdisjoint
    rw [List.subperm_ext_iff] at hpart hflat ⊢
    intro x hx
    rw [List.flatten_cons, List.count_append]
    by_cases hmem : x ∈ part
    · have hother : x ∉ rest.flatten := by
        intro hx
        obtain ⟨other, hother, hx⟩ := List.mem_flatten.1 hx
        exact happart other hother hmem hx
      have hzero := List.count_eq_zero.2 hother
      have hone := hpart x hmem
      omega
    · have hother : x ∈ rest.flatten := by
        rcases List.mem_append.1 (List.flatten_cons ▸ hx) with hx | hx
        · exact absurd hx hmem
        · exact hx
      have hzero := List.count_eq_zero.2 hmem
      have hone := hflat x hother
      omega

/-- Cursors that are the sort values of last rows are in the order of the pages. -/
theorem pairwise_next_of_ordered {cfg : Config} {source : Source} {r : CursorRequest}
    {pages : List CursorPage} (hon : ∀ p ∈ pages, source.HandsOn cfg r p)
    (hordered : pages.Pairwise fun p q => ∀ a ∈ p.list, ∀ b ∈ q.list,
      (source.view r.sortField).compare r.direction a b = .lt) :
    (pages.filterMap (·.next)).Pairwise fun v w => r.direction.compare v w = .lt := by
  refine List.pairwise_filterMap.2 (hordered.imp_of_mem ?_)
  intro p q hp hq hpq v hv w hw
  obtain ⟨_, last, hlast, rfl⟩ := hon p hp v hv
  obtain ⟨_, other, hother, rfl⟩ := hon q hq w hw
  exact hpq last (List.mem_of_getLast? hlast) other (List.mem_of_getLast? hother)

/-! ### Tables -/

section Tables

variable {table : Table} {base : Table.Query} {ctx : Table.Context} {rows : List Row}

/-- In rows without points in their names the value at an edge is the cell of the sort field. -/
theorem passesOn_rows {cfg : Config} {r : CursorRequest}
    (hs : (Source.rows table base ctx).Sorts r.sortField)
    (hm : table.select (narrow base r.filter ctx) = .ok rows) :
    (Source.rows table base ctx).PassesOn cfg r rows := by
  obtain ⟨hcolumn, htable, hflat, _⟩ := hs
  refine ⟨?_, fun _ _ _ _ => trivial⟩
  intro row hrow
  have hcell := Table.resolve_qualifiedName (hflat row (mem_of_select hm row hrow)) htable hcolumn
  have hedge := sortValue_of_not_mem row hcolumn
  exact hedge.trans hcell.symm

/-- The walk over the rows of a table from the first page ends, with no more pages than rows selected,
or with one. Each cursor is sorted behind the one before it and leads to a page that shows rows, each
page is sorted behind those before it, and no row selected is shown again. -/
theorem row_walk_ends (cfg : Config) (r : CursorRequest) (hcursor : r.cursor = none)
    (htowards : r.towards = .next) (hs : (Source.rows table base ctx).Sorts r.sortField)
    (hm : table.select (narrow base r.filter ctx) = .ok rows)
    (hfloat : ∀ row ∈ rows,
      (((Source.rows table base ctx).view r.sortField).key row).IsFloatFree) :
    let view := (Source.rows table base ctx).view r.sortField
    let fetch (request : CursorRequest) := rowsByCursor cfg table base request ctx
    ∃ pages : List CursorPage,
      (∀ ps, Walk fetch CursorRequest.forward r ps ↔ ps = pages) ∧
      pages.length ≤ max 1 rows.length ∧
      (pages.filterMap (·.next)).Pairwise (fun v w => r.direction.compare v w = .lt) ∧
      (∀ p ∈ pages, ∀ v, p.next = some v → ∃ q, fetch (r.after v) = .ok q ∧ q.list ≠ []) ∧
      (pages.flatMap (·.list)).Subperm rows ∧
      pages.Pairwise fun p q => p.list.Disjoint q.list ∧
        ∀ a ∈ p.list, ∀ b ∈ q.list, view.compare r.direction a b = .lt := by
  intro view fetch
  have hpasses : (Source.rows table base ctx).PassesOn cfg r rows := passesOn_rows hs hm
  have hstart : ∀ c, r.cursor = some c →
      (Source.rows table base ctx).Keeps cfg r c ∧ c.IsFloatFree := by
    rw [hcursor]
    exact fun c hc => absurd hc (by simp)
  obtain ⟨pages, hwalk, hlength⟩ :=
    exists_walk_of_passesOn htowards hs hm hpasses hfloat (fun _ _ => id) hstart
  have hpast : view.past r rows = rows := by rw [View.past, hcursor]
  have hkeeps : ∀ c, r.cursor = some c → (Source.rows table base ctx).Keeps cfg r c :=
    fun c hc => (hstart c hc).1
  have hon := hpasses.handsOn_of_visits hwalk.visits hs hm htowards hkeeps
  have hadvances := advances_of_visits hwalk.visits hs hm hfloat
    (Source.boundsBySort_of_not_comparesItems _ r rows) htowards hkeeps hon
  have hordered : pages.Pairwise fun p q =>
      ∀ a ∈ p.list, ∀ b ∈ q.list, view.compare r.direction a b = .lt :=
    hadvances.ordered.imp fun hpq a ha b hb => hpq a ha b hb id
  have hdisjoint : pages.Pairwise fun p q => p.list.Disjoint q.list := by
    refine hordered.imp ?_
    intro p q hpq row hp hq
    have hlt := hpq row hp row hq
    have hself : view.compare r.direction row row = .eq := Direction.compare_self _ _
    rw [hself] at hlt
    exact absurd hlt (by decide)
  refine ⟨pages, fun ps => ⟨fun hps => hps.unique hwalk, fun hps => hps ▸ hwalk⟩, ?_, ?_, ?_, ?_,
    hdisjoint.and hordered⟩
  · rw [← hpast]
    exact hlength
  · exact pairwise_next_of_ordered hon hordered
  · intro p hp v hv
    obtain ⟨c, rfl⟩ := hpasses.exists_page hwalk.visits hs hm htowards hkeeps p hp
    have hpage : fetch (r.after v) =
        .ok (view.page (r.after v) (cfg.resolveLimit r.limit).toNat rows) :=
      rowsByCursor_eq_page hs hm
    have hshown := View.list_after_ne_nil (one_le_resolveLimit cfg r.limit) hv
    refine ⟨_, hpage, ?_⟩
    rw [View.list_page]
    exact hshown
  · rw [List.flatMap_def]
    refine subperm_flatMap_of_disjoint ?_ (List.pairwise_map.2 hdisjoint)
    intro part hpart
    obtain ⟨p, hp, rfl⟩ := List.mem_map.1 hpart
    exact hadvances.subperm p hp

end Tables

theorem walk_over_mixed_values :
    let row (id : Int64) (v : Value) : Row := [("id", .int id), ("n", v)]
    let rows : List Row := [row 1 (.int 1), row 2 .null, row 3 (.str "a"), row 4 (.int 3),
      [("id", .int 5)], row 6 (.int 2), row 7 (.int 1), row 8 (.list [.int 2])]
    let table : Table := .ofRows "t" rows
    let r : CursorRequest := ⟨.map [], "n", .desc, some 3, none, .next⟩
    let first : CursorPage := ⟨[row 8 (.list [.int 2]), row 3 (.str "a"), row 4 (.int 3)], 8,
      ⟨"n", .desc⟩, some (.int 3), none⟩
    let second : CursorPage := ⟨[row 6 (.int 2), row 1 (.int 1), row 7 (.int 1)], 8, ⟨"n", .desc⟩,
      none, some (.int 2)⟩
    (∀ ps, Walk (fun request => rowsByCursor .default table (.ofTable "t") request .default)
      CursorRequest.forward r ps ↔ ps = [first, second]) ∧
      (first.list ++ second.list).Subperm rows := by
  intro row rows table r first second
  have hs : (Source.rows table (.ofTable "t") .default).Sorts "n" :=
    ⟨by decide, by decide, by decide, by decide, rfl, rfl⟩
  have hm : table.select (narrow (.ofTable "t") (.map []) .default) = .ok rows := rfl
  have hfloat : ∀ row ∈ rows,
      (((Source.rows table (.ofTable "t") .default).view "n").key row).IsFloatFree := by
    decide +kernel
  obtain ⟨pages, hwalk, _, _, _, hsub, _⟩ := row_walk_ends .default r rfl rfl hs hm hfloat
  have hshown := (hwalk [first, second]).1
    (.step (by decide +kernel) rfl (.last (by decide +kernel) rfl))
  rw [← hshown] at hwalk hsub
  exact ⟨hwalk, hsub⟩

end Page

end PagedFilter
