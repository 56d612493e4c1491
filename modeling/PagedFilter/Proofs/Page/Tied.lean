import PagedFilter.Proofs.Page.Cursor
import PagedFilter.Proofs.Page.Edges

/-!
Pages back from a cursor over rows of which several have one sort value. Such a page is fetched against
the sort and turned around, and a stable sort against an order leaves equal rows as they were inserted.
So the page shows them in reverse, and of rows for which there is no room it keeps those that were
inserted first.
-/

namespace PagedFilter.Page

/-! ### Lists -/

section Lists

variable {α β : Type}

/-- A list that ends in the same elements as its reverse, if in any, has but one element, unless it
holds one twice. -/
theorem eq_of_suffix_reverse {part whole : List α} (hne : part ≠ []) (h : part <:+ whole)
    (hr : part <:+ whole.reverse) (hn : whole.Nodup) {a b : α} (ha : a ∈ whole) (hb : b ∈ whole) :
    b = a := by
  cases whole with
  | nil => simp at ha
  | cons x rest =>
    have hlast : (x :: rest).getLast? = some x := by
      rw [List.getLast?_eq_some_getLast (List.cons_ne_nil x rest), ← h.getLast hne, hr.getLast hne,
        List.getLast_reverse, List.head_cons]
    have hrest : rest = [] := by
      by_contra hcons
      obtain ⟨y, ys, rfl⟩ := List.exists_cons_of_ne_nil hcons
      rw [List.getLast?_cons_cons] at hlast
      exact (List.nodup_cons.1 hn).1 (List.mem_of_getLast? hlast)
    subst hrest
    rw [List.mem_singleton.1 ha, List.mem_singleton.1 hb]

/-- Lists with the same images are equal where an image tells its element. -/
theorem eq_of_map_eq {f : α → β} {xs ys : List α} (hmap : ys.map f = xs.map f)
    (h : ∀ x ∈ xs, ∀ y ∈ ys, f y = f x → y = x) : ys = xs := by
  induction xs generalizing ys with
  | nil => exact List.map_eq_nil_iff.1 hmap
  | cons x xs ih =>
    cases ys with
    | nil => simp at hmap
    | cons y ys =>
      rw [List.map_cons, List.map_cons, List.cons.injEq] at hmap
      rw [h x List.mem_cons_self y List.mem_cons_self hmap.1, ih hmap.2 fun x hx y hy =>
        h x (List.mem_cons_of_mem _ hx) y (List.mem_cons_of_mem _ hy)]

end Lists

/-! ### Sorting in either direction -/

/-- Rows that the sort holds for equal have one sort value. -/
theorem View.key_eq_of_compare {view : View} {d : Direction} {a b : Row}
    (ha : (view.key a).IsFloatFree) (hb : (view.key b).IsFloatFree)
    (h : view.compare d a b = .eq) : view.key a = view.key b := by
  cases d with
  | asc => exact Value.eq_of_compare ha hb h
  | desc => exact (Value.eq_of_compare hb ha h).symm

section Sorted

variable {view : View} {rows : List Row} (hfloat : ∀ row ∈ rows, (view.key row).IsFloatFree)
include hfloat

/-- Against the sort the rows stand the other way round, as if they had been inserted in reverse. -/
theorem View.sort_reversed (d : Direction) :
    view.sort d.reversed rows = (view.sort d rows.reverse).reverse := by
  have hflip : view.compare d.reversed = fun a b => view.compare d b a := by
    funext a b
    exact view.compare_reversed d a b
  rw [View.sort, hflip]
  exact StableSort.sort_flip (view.isOrderOn d) hfloat

/-- The sort values come in one order, whichever way the rows were inserted. -/
theorem View.map_key_sort_reverse (d : Direction) :
    (view.sort d rows.reverse).map view.key = (view.sort d rows).map view.key := by
  have horder := view.isOrderOn d
  have hreverse : ∀ row ∈ rows.reverse, (view.key row).IsFloatFree :=
    fun row hrow => hfloat row (List.mem_reverse.1 hrow)
  have hperm : ((view.sort d rows.reverse).map view.key).Perm ((view.sort d rows).map view.key) :=
    ((StableSort.sort_perm _ _).trans
      ((List.reverse_perm rows).trans (StableSort.sort_perm _ rows).symm)).map view.key
  have hsorted : ∀ {xs : List Row}, (∀ row ∈ xs, (view.key row).IsFloatFree) →
      ((view.sort d xs).map view.key).Pairwise fun v w => d.compare v w ≠ .gt := by
    intro xs hxs
    exact List.pairwise_map.2 (StableSort.pairwise_sort horder hxs)
  refine List.Perm.eq_of_pairwise (fun v w hv hw hvw hwv => ?_) (hsorted hreverse) (hsorted hfloat)
    hperm
  obtain ⟨a, ha, rfl⟩ := List.mem_map.1 hv
  obtain ⟨b, hb, rfl⟩ := List.mem_map.1 hw
  have hPa := hreverse a ((StableSort.mem_sort _ _ a).1 ha)
  have hPb := hfloat b ((StableSort.mem_sort _ _ b).1 hb)
  have heq : view.compare d a b = .eq := by
    have hlt := horder.not_lt_of_not_gt hPb hPa hwv
    cases hc : view.compare d a b with
    | lt => exact absurd hc hlt
    | eq => rfl
    | gt => exact absurd hc hvw
  exact View.key_eq_of_compare hPa hPb heq

/-- The rows equal to one row stand in the sorted rows as they were inserted. -/
theorem View.filter_tied_sort (d : Direction) {a : Row} (ha : a ∈ rows) (p : Row → Bool) :
    ((view.sort d rows).filter p).filter (view.compare d a · == .eq) =
      (rows.filter (view.compare d a · == .eq)).filter p := by
  have hstable : (view.sort d rows).filter (view.compare d a · == .eq) =
      rows.filter (view.compare d a · == .eq) :=
    (StableSort.isStableOrder_sort (view.isOrderOn d) hfloat).stable a ha
  rw [List.filter_filter, List.filter_congr fun row _ => Bool.and_comm _ _, ← List.filter_filter,
    hstable]

end Sorted

/-! ### Pages back from a cursor -/

section Back

variable {view : View} {rows : List Row} (h : view.OfOneKind rows) (hf : view.IsFaithful rows)
  {r : CursorRequest}
  (hc : ∀ c, r.cursor = some c → ∀ row ∈ rows, (view.key row).kind = c.kind)
include h hf hc

/-- A page back shows the last rows in front of its cursor, of rows inserted in reverse. -/
theorem View.list_of_previous (ht : r.towards = .previous) (limit : Nat) :
    view.list r limit rows =
      r.nearest limit ((view.sort r.direction rows.reverse).filter (view.isPast r)) := by
  have hreverse : ∀ row ∈ rows.reverse, (view.key row).IsFloatFree :=
    fun row hrow => h.isFloatFree (List.mem_reverse.1 hrow)
  have hpast : ∀ row ∈ rows.filter (view.isPast r), (view.key row).IsFloatFree :=
    fun row hrow => h.isFloatFree (List.mem_of_mem_filter hrow)
  have hsort : view.sort r.direction (rows.reverse.filter (view.isPast r)) =
      (view.sort r.direction rows.reverse).filter (view.isPast r) :=
    StableSort.sort_filter (view.isOrderOn r.direction) hreverse _
  rw [View.list, View.past_eq_filter h hf hc, inOrder, CursorRequest.nearest,
    CursorRequest.fetchDirection, ht]
  simp only [View.sort_reversed hpast, ← List.filter_reverse, hsort]
  rw [List.filter_reverse]
  exact (List.rtake_eq_reverse_take_reverse _ _).symm

end Back

section Previous

variable {view : View} {rows : List Row} (h : view.OfOneKind rows) {r : CursorRequest} {c : Value}
  (hcursor : r.cursor = some c) (ht : r.towards = .previous) (limit : Nat)
include hcursor ht

theorem View.isPast_of_previous (row : Row) :
    view.isPast r row = (r.direction.compare (view.key row) c == .lt) := by
  rw [View.isPast, hcursor, ht]

/-- The rows nearest to the cursor have the sort values nearest to it. -/
theorem View.map_key_nearest (sorted : List Row) :
    (r.nearest limit (sorted.filter (view.isPast r))).map view.key =
      ((sorted.map view.key).filter fun v => r.direction.compare v c == .lt).rtake limit := by
  have hpast : view.isPast r = (fun v => r.direction.compare v c == .lt) ∘ view.key := by
    funext row
    exact View.isPast_of_previous hcursor ht row
  rw [CursorRequest.nearest, ht, hpast, List.filter_map]
  simp only [List.rtake, List.map_drop, List.length_map]

include h

/-- Rows that are equal for the sort stand in reverse in the page and in the sorted rows, so the two
agree only where no row of the page is equal to another one. -/
theorem eq_of_nearest_reverse (hn : rows.Nodup)
    (heq : r.nearest limit ((view.sort r.direction rows.reverse).filter (view.isPast r)) =
      r.nearest limit ((view.sort r.direction rows).filter (view.isPast r)))
    {a b : Row} (ha : a ∈ r.nearest limit ((view.sort r.direction rows).filter (view.isPast r)))
    (hb : b ∈ rows) (hab : view.compare r.direction a b = .eq) : b = a := by
  have horder := view.isOrderOn r.direction
  have hfloat : ∀ row ∈ rows, (view.key row).IsFloatFree := fun row => h.isFloatFree
  have hreverse : ∀ row ∈ rows.reverse, (view.key row).IsFloatFree :=
    fun row hrow => hfloat row (List.mem_reverse.1 hrow)
  have hsorted := List.mem_filter.1 (mem_of_mem_nearest ha)
  have harow : a ∈ rows := (StableSort.mem_sort _ rows a).1 hsorted.1
  have hself : view.compare r.direction a a = .eq := horder.compare_self (hfloat a harow)
  -- the rows equal to `a` in front of the cursor, as they were inserted
  let ties := (rows.filter (view.compare r.direction a · == .eq)).filter (view.isPast r)
  have hnearest : ∀ listing : List Row,
      (r.nearest limit listing).filter (view.compare r.direction a · == .eq) <:+
        listing.filter (view.compare r.direction a · == .eq) := by
    intro listing
    rw [CursorRequest.nearest, ht]
    exact (List.drop_suffix _ listing).filter _
  have hpart := hnearest ((view.sort r.direction rows).filter (view.isPast r))
  have hback := hnearest ((view.sort r.direction rows.reverse).filter (view.isPast r))
  rw [View.filter_tied_sort hfloat r.direction harow] at hpart
  rw [View.filter_tied_sort hreverse r.direction (List.mem_reverse.2 harow), heq,
    List.filter_reverse, List.filter_reverse] at hback
  have hatie : a ∈ ties := List.mem_filter.2
    ⟨List.mem_filter.2 ⟨harow, beq_iff_eq.2 hself⟩, hsorted.2⟩
  have hkey : view.key a = view.key b := View.key_eq_of_compare (hfloat a harow) (hfloat b hb) hab
  have hbtie : b ∈ ties := by
    refine List.mem_filter.2 ⟨List.mem_filter.2 ⟨hb, beq_iff_eq.2 hab⟩, ?_⟩
    rw [View.isPast_of_previous hcursor ht, ← hkey, ← View.isPast_of_previous hcursor ht]
    exact hsorted.2
  refine eq_of_suffix_reverse ?_ hpart hback ((hn.filter _).filter _) hatie hbtie
  exact List.ne_nil_of_mem (List.mem_filter.2 ⟨ha, beq_iff_eq.2 hself⟩)

/-- Where no row of the page is equal to another one, reversing the rows changes nothing. -/
theorem nearest_reverse_of_no_ties
    (hties : ∀ a ∈ r.nearest limit ((view.sort r.direction rows).filter (view.isPast r)),
      ∀ b ∈ rows, view.compare r.direction a b = .eq → b = a) :
    r.nearest limit ((view.sort r.direction rows.reverse).filter (view.isPast r)) =
      r.nearest limit ((view.sort r.direction rows).filter (view.isPast r)) := by
  have horder := view.isOrderOn r.direction
  have hkeys : (r.nearest limit ((view.sort r.direction rows.reverse).filter
        (view.isPast r))).map view.key =
      (r.nearest limit ((view.sort r.direction rows).filter (view.isPast r))).map view.key := by
    rw [View.map_key_nearest hcursor ht, View.map_key_nearest hcursor ht,
      View.map_key_sort_reverse fun row => h.isFloatFree]
  refine eq_of_map_eq hkeys fun a ha b hb hkey => ?_
  have hbsorted := List.mem_of_mem_filter (mem_of_mem_nearest hb)
  have hbrow : b ∈ rows := List.mem_reverse.1 ((StableSort.mem_sort _ rows.reverse b).1 hbsorted)
  refine hties a ha b hbrow ?_
  have hself := horder.compare_self (h.isFloatFree hbrow)
  rw [View.compare, ← hkey]
  exact hself

end Previous

/-- On rows of one kind, tied or not, a page back shows the rows nearest in front of its cursor as if
the rows had been inserted in reverse. Its sort values are those of the nearest rows of the listing
forward, but of the rows themselves it shows the same in the same order only where no row of the page
is equal to another row in the sort. -/
theorem page_back_reverses_ties (cfg : Config) (source : Source) (r : CursorRequest)
    {rows : List Row} (hs : source.Sorts r.sortField)
    (hm : source.matching cfg r.filter = .ok rows)
    (h : (source.view r.sortField).OfOneKind rows) {c : Value} (hcursor : r.cursor = some c)
    (hkind : ∀ row ∈ rows, ((source.view r.sortField).key row).kind = c.kind)
    (htowards : r.towards = .previous) :
    let view := source.view r.sortField
    let listing := view.sort r.direction rows
    let reversed := view.sort r.direction rows.reverse
    let before (sorted : List Row) :=
      (sorted.filter fun row => r.direction.compare (view.key row) c == .lt).rtake
        (cfg.resolveLimit r.limit).toNat
    StableSort.IsStableOrder (view.compare r.direction) rows listing ∧
      StableSort.IsStableOrder (view.compare r.direction) rows.reverse reversed ∧
      ∃ page, source.byCursor cfg r = .ok page ∧ page.list = before reversed ∧
        page.list.map view.key = (before listing).map view.key ∧
        (rows.Nodup → (page.list = before listing ↔
          ∀ a ∈ before listing, ∀ b ∈ rows, view.compare r.direction a b = .eq → b = a)) := by
  intro view listing reversed before
  have hfloat : ∀ row ∈ rows, (view.key row).IsFloatFree := fun row => h.isFloatFree
  have hreverse : ∀ row ∈ rows.reverse, (view.key row).IsFloatFree :=
    fun row hrow => hfloat row (List.mem_reverse.1 hrow)
  have hc : ∀ c', r.cursor = some c' → ∀ row ∈ rows, (view.key row).kind = c'.kind := by
    intro c' hc' row hrow
    obtain rfl : c = c' := Option.some.inj (hcursor.symm.trans hc')
    exact hkind row hrow
  have hbefore : ∀ sorted, before sorted =
      r.nearest (cfg.resolveLimit r.limit).toNat (sorted.filter (view.isPast r)) := by
    intro sorted
    rw [CursorRequest.nearest, htowards, funext (View.isPast_of_previous hcursor htowards)]
  have hlist : (view.page r (cfg.resolveLimit r.limit).toNat rows).list = before reversed := by
    rw [View.page_eq, hbefore]
    exact View.list_of_previous h (source.isFaithful_view hs hm h) hc htowards _
  refine ⟨StableSort.isStableOrder_sort (view.isOrderOn r.direction) hfloat,
    StableSort.isStableOrder_sort (view.isOrderOn r.direction) hreverse, _,
    Source.byCursor_eq_page hs hm hc, hlist, ?_, fun hn => ⟨fun heq => ?_, fun hties => ?_⟩⟩
  · rw [hlist, hbefore, hbefore, View.map_key_nearest hcursor htowards,
      View.map_key_nearest hcursor htowards, View.map_key_sort_reverse hfloat]
  · rw [hlist, hbefore, hbefore] at heq
    rw [hbefore]
    intro a ha b hb hab
    exact eq_of_nearest_reverse h hcursor htowards _ hn heq ha hb hab
  · rw [hbefore] at hties
    rw [hlist, hbefore, hbefore]
    exact nearest_reverse_of_no_ties h hcursor htowards _ hties

theorem page_back_from_lower_score :
    let rows := [(1, 7), (2, 4), (3, 4), (4, 2)].map fun (x : Int64 × Int64) =>
      [("id", Value.int x.1), ("score", Value.int x.2)]
    let r : CursorRequest := ⟨.map [], "score", .desc, some 2, some (.int 2), .previous⟩
    ∃ page, (Source.documents (.ofList rows)).byCursor .default r = .ok page ∧
      page.list = [[("id", .int 3), ("score", .int 4)], [("id", .int 2), ("score", .int 4)]] := by
  intro rows r
  have hs : isNative "score" = false := by decide
  have hm : (Source.documents (.ofList rows)).matching .default r.filter = .ok rows := rfl
  have h : ((Source.documents (.ofList rows)).view r.sortField).OfOneKind rows :=
    View.ofOneKind_map (fun _ => rfl) _
  obtain ⟨_, _, page, hfetch, hlist, _⟩ :=
    page_back_reverses_ties .default (.documents (.ofList rows)) r hs hm h rfl (by decide) rfl
  exact ⟨page, hfetch, hlist.trans (by decide +kernel)⟩

/-- Two rows with one value in front of the cursor. The listing ends in the second one, but a page of
one row back from the cursor shows the first, and a page of two shows both in reverse. -/
theorem page_back_keeps_first_tied_row :
    let row (id n : Int64) : Row := [("id", .int id), ("n", .int n)]
    let rows := [row 1 1, row 2 1, row 3 2]
    let back (limit : Int64) : CursorRequest :=
      ⟨.map [], "n", .asc, some limit, some (.int 2), .previous⟩
    ∀ source ∈ [Source.documents (.ofList rows), .rows (.ofRows "t" rows) (.ofTable "t") .default],
      (source.view "n").sort .asc rows = rows ∧
        source.byCursor .default (back 1) =
          .ok ⟨[row 1 1], 3, ⟨"n", .asc⟩, some (.int 1), none⟩ ∧
        source.byCursor .default (back 2) =
          .ok ⟨[row 2 1, row 1 1], 3, ⟨"n", .asc⟩, some (.int 1), none⟩ := by
  intro row rows back
  exact List.forall_mem_cons.2 ⟨by decide +kernel, List.forall_mem_singleton.2 (by decide +kernel)⟩

end PagedFilter.Page
