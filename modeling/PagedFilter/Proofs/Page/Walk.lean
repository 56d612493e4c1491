import PagedFilter.Proofs.Page.Ordered

/-!
Walking through all pages: every request after the first one asks for what follows the page before.
Over rows whose sort values tell them apart, the state of a walk is the part of the sorted rows that
its pages have shown; the next page is the head of the rest.
-/

namespace PagedFilter.Page

/-! ### Walks -/

/-- The request for the page after a page, if there is one. -/
def CursorRequest.forward (r : CursorRequest) (p : CursorPage) : Option CursorRequest :=
  p.next.map r.after

/-- The pages of a walk from a request until no request follows a page. -/
inductive Walk (fetch : CursorRequest → Except StoreError CursorPage)
    (follow : CursorRequest → CursorPage → Option CursorRequest) :
    CursorRequest → List CursorPage → Prop where
  | last {r p} : fetch r = .ok p → follow r p = none → Walk fetch follow r [p]
  | step {r p next rest} : fetch r = .ok p → follow r p = some next →
      Walk fetch follow next rest → Walk fetch follow r (p :: rest)

theorem Walk.unique {fetch : CursorRequest → Except StoreError CursorPage}
    {follow : CursorRequest → CursorPage → Option CursorRequest} {r : CursorRequest}
    {ps qs : List CursorPage} (hp : Walk fetch follow r ps) (hq : Walk fetch follow r qs) :
    ps = qs := by
  induction hp generalizing qs with
  | @last r p hfetch hend =>
    cases hq with
    | last hfetch' _ =>
      rw [hfetch, Except.ok.injEq] at hfetch'
      rw [hfetch']
    | step hfetch' hnext _ =>
      rw [hfetch, Except.ok.injEq] at hfetch'
      rw [← hfetch', hend] at hnext
      simp at hnext
  | @step r p next rest hfetch hnext _ ih =>
    cases hq with
    | last hfetch' hend =>
      rw [hfetch, Except.ok.injEq] at hfetch'
      rw [← hfetch', hnext] at hend
      simp at hend
    | step hfetch' hnext' hrest =>
      rw [hfetch, Except.ok.injEq] at hfetch'
      subst hfetch'
      rw [hnext, Option.some.injEq] at hnext'
      subst hnext'
      rw [ih hrest]

/-! ### One page of a walk -/

/-- The request of a walk after its pages have shown rows. -/
def CursorRequest.since (r : CursorRequest) (view : View) (shown : List Row) : CursorRequest :=
  { r with cursor := shown.getLast?.map view.key, towards := .next }

/-- The page of a walk between the rows shown and those that are left. -/
def View.pageBetween (view : View) (r : CursorRequest) (limit total : Nat) (shown left : List Row) :
    CursorPage where
  list := left.take limit
  totalCount := total
  order := ⟨r.sortField, r.direction⟩
  next := if (left.drop limit).isEmpty then none else (left.take limit).getLast?.map view.key
  previous := if shown.isEmpty then none else left.head?.map view.key

theorem take_ne_nil {α : Type} {limit : Nat} (hlimit : 1 ≤ limit) {xs : List α} (h : xs ≠ []) :
    xs.take limit ≠ [] := by
  intro htake
  rcases List.take_eq_nil_iff.1 htake with hzero | hnil
  · omega
  · exact h hnil

theorem any_of_sort_filter {view : View} {d : Direction} {rows part : List Row} {p : Row → Bool}
    (h : view.sort d (rows.filter p) = part) : rows.any p = !part.isEmpty := by
  have hlength : part.length = (rows.filter p).length := by
    rw [← h]
    exact StableSort.length_sort _ _
  rw [← isEmpty_take_filter]
  cases part <;> cases hrows : rows.filter p <;> simp [hrows] at hlength ⊢

section Split

variable {view : View} {rows : List Row} (hf : view.IsFaithful rows) (h : view.TellsApart rows)
  {d : Direction} {front behind : List Row} {x : Row}
  (hs : view.sort d rows = front ++ x :: behind)

include hs in
theorem mem_of_sort_eq {row : Row} (hrow : row ∈ front ++ x :: behind) : row ∈ rows := by
  rw [← hs] at hrow
  exact (StableSort.mem_sort (view.compare d) rows row).1 hrow

include h hs in
theorem pairwise_of_sort_eq :
    (front ++ x :: behind).Pairwise fun a b => view.compare d a b = .lt := by
  rw [← hs]
  exact h.strictly_sorted_sort d

include hf h hs

/-- What lies after a row is what is sorted behind it. -/
theorem sort_filter_after :
    view.sort d (rows.filter (view.lies (Side.after d) (view.key x))) = behind := by
  have hx : x ∈ rows := mem_of_sort_eq hs (by simp)
  have hlies : rows.filter (view.lies (Side.after d) (view.key x)) =
      rows.filter (view.compare d x · == .lt) :=
    List.filter_congr fun row hrow => hf.lies_after hrow d h.ofOneKind hx
  rw [hlies, h.sort_filter, hs]
  exact StableSort.filter_behind (view.isOrderOn d)
    (fun row hrow => h.isFloatFree (mem_of_sort_eq hs hrow)) (pairwise_of_sort_eq h hs)

/-- What lies before a row is what is sorted in front of it. -/
theorem sort_filter_before :
    view.sort d (rows.filter (view.lies (Side.before d) (view.key x))) = front := by
  have hx : x ∈ rows := mem_of_sort_eq hs (by simp)
  have hlies : rows.filter (view.lies (Side.before d) (view.key x)) =
      rows.filter (view.compare d · x == .lt) :=
    List.filter_congr fun row hrow => hf.lies_before hrow d h.ofOneKind hx
  rw [hlies, h.sort_filter, hs]
  exact StableSort.filter_front (view.isOrderOn d)
    (fun row hrow => h.isFloatFree (mem_of_sort_eq hs hrow)) (pairwise_of_sort_eq h hs)

theorem edgeTowards_after : view.edgeTowards (Side.after d) rows (view.edge x) =
    if behind.isEmpty then none else some (view.key x) := by
  rw [View.edgeTowards, hf.edge x (mem_of_sort_eq hs (by simp)), Option.any_some,
    any_of_sort_filter (sort_filter_after hf h hs), keepIf]
  cases behind <;> rfl

theorem edgeTowards_before : view.edgeTowards (Side.before d) rows (view.edge x) =
    if front.isEmpty then none else some (view.key x) := by
  rw [View.edgeTowards, hf.edge x (mem_of_sort_eq hs (by simp)), Option.any_some,
    any_of_sort_filter (sort_filter_before hf h hs), keepIf]
  cases front <;> rfl

end Split

section Step

variable {view : View} {rows : List Row} (hf : view.IsFaithful rows) (h : view.TellsApart rows)
  (r : CursorRequest) {shown left : List Row}
  (hs : view.sort r.direction rows = shown ++ left)
include hf h hs

theorem sort_past_since : view.sort r.direction (view.past (r.since view shown) rows) = left := by
  rcases List.eq_nil_or_concat shown with rfl | ⟨front, x, rfl⟩
  · exact hs
  · rw [List.concat_eq_append, List.append_assoc, List.singleton_append] at hs
    have hcursor : (r.since view (front.concat x)).cursor = some (view.key x) := by
      rw [CursorRequest.since, List.concat_eq_append, List.getLast?_concat]
      rfl
    rw [View.past, hcursor]
    exact sort_filter_after hf h hs

/-- A request whose page shows the head of what is left gets the page between the rows shown and
those left, whichever way it goes. -/
theorem page_of_list {q : CursorRequest} (hfield : q.sortField = r.sortField)
    (hdirection : q.direction = r.direction) {limit : Nat} (hlimit : 1 ≤ limit)
    (hlist : view.list q limit rows = left.take limit) :
    view.page q limit rows = view.pageBetween r limit rows.length shown left := by
  rw [View.page_eq, View.pageBetween, hlist, hfield, hdirection]
  -- a page without rows has no edges; else its first and its last row split the sorted rows
  rcases List.eq_nil_or_concat (left.take limit) with hnil | ⟨front, y, hlast⟩
  · have hleft : left = [] := by
      by_cases hleft : left = []
      · exact hleft
      · exact absurd hnil (take_ne_nil hlimit hleft)
    subst hleft
    simp only [List.take_nil, List.drop_nil]
    cases shown <;> rfl
  · rw [List.concat_eq_append] at hlast
    obtain ⟨x, rest, rfl⟩ : ∃ x rest, left = x :: rest := by
      cases left with
      | nil => simp at hlast
      | cons x rest => exact ⟨x, rest, rfl⟩
    have hhead : (front ++ [y]).head? = some x := by
      rw [← hlast, List.head?_take, if_neg (by omega)]
      rfl
    have hsplit : view.sort r.direction rows =
        (shown ++ front) ++ y :: (x :: rest).drop limit := by
      have htake := List.take_append_drop limit (x :: rest)
      rw [hlast, List.append_assoc] at htake
      rw [hs, List.append_assoc]
      exact congrArg (shown ++ ·) htake.symm
    have hbefore := edgeTowards_before hf h hs
    have hafter := edgeTowards_after hf h hsplit
    rw [hlast, hhead, List.getLast?_concat]
    simp only [Option.bind_some, Option.map_some, List.head?_cons]
    exact congr (congrArg (CursorPage.mk (front ++ [y]) rows.length ⟨r.sortField, r.direction⟩)
      hafter) hbefore

theorem page_since {limit : Nat} (hlimit : 1 ≤ limit) :
    view.page (r.since view shown) limit rows =
      view.pageBetween r limit rows.length shown left := by
  have hlist : view.list (r.since view shown) limit rows = left.take limit := by
    rw [View.list, ← sort_past_since hf h r hs]
    rfl
  exact page_of_list (q := r.since view shown) hf h r hs rfl rfl hlimit hlist

end Step

/-! ### Whole walks -/

/-- What the pages of a walk come to: they show what is left after the rows shown before, one page
for every part of the limit's length. -/
structure Covers (limit total : Nat) (shown left : List Row) (pages : List CursorPage) : Prop where
  length : pages.length = max 1 ((left.length + (limit - 1)) / limit)
  rows : pages.flatMap (·.list) = left
  totalCount : ∀ p ∈ pages, p.totalCount = total
  previous : ∀ i (h : i < pages.length), pages[i].previous = none ↔ i = 0 ∧ shown = []
  next : ∀ i (h : i < pages.length), pages[i].next = none ↔ i + 1 = pages.length

section Covers

variable (view : View) (r : CursorRequest) {limit : Nat} (hlimit : 1 ≤ limit) (total : Nat)
  {shown left : List Row} (hleft : left = [] → shown = [])

include hleft in
theorem previous_pageBetween :
    (view.pageBetween r limit total shown left).previous = none ↔ shown = [] := by
  rw [View.pageBetween]
  cases shown with
  | nil => simp
  | cons s ss =>
    cases left with
    | nil => simp at hleft
    | cons x rest => simp

include hlimit

theorem next_pageBetween :
    (view.pageBetween r limit total shown left).next = none ↔ left.length ≤ limit := by
  rw [View.pageBetween, ← List.drop_eq_nil_iff]
  cases hrest : left.drop limit with
  | nil => simp
  | cons y rest =>
    have hleft : left ≠ [] := fun hnil => by simp [hnil] at hrest
    simp [take_ne_nil hlimit hleft]

/-- What follows a page is the request after the rows it shows. -/
theorem forward_since (hmore : left.drop limit ≠ []) :
    (r.since view shown).forward (view.pageBetween r limit total shown left) =
      some (r.since view (shown ++ left.take limit)) := by
  have hleft : left ≠ [] := fun hnil => hmore (by rw [hnil, List.drop_nil])
  have htake := take_ne_nil hlimit hleft
  have hlast : (left.take limit).getLast? = some ((left.take limit).getLast htake) :=
    List.getLast?_eq_some_getLast htake
  have hnext : (view.pageBetween r limit total shown left).next =
      some (view.key ((left.take limit).getLast htake)) := by
    rw [View.pageBetween, if_neg (by simpa using hmore), hlast, Option.map_some]
  have hshown : (shown ++ left.take limit).getLast? = some ((left.take limit).getLast htake) := by
    rw [List.getLast?_append, hlast, Option.some_or]
  rw [CursorRequest.forward, hnext, Option.map_some]
  exact congrArg (fun last : Option Row =>
    some { r with cursor := last.map view.key, towards := .next }) hshown.symm

include hleft

/-- The last page shows all that is left. -/
theorem covers_last (hshort : left.length ≤ limit) :
    Covers limit total shown left [view.pageBetween r limit total shown left] where
  length := by
    have hparts : (left.length + (limit - 1)) / limit < 2 := Nat.div_lt_of_lt_mul (by omega)
    rw [List.length_singleton]
    omega
  rows := by
    rw [List.flatMap_singleton]
    exact List.take_of_length_le hshort
  totalCount := fun p hp => by rw [List.mem_singleton.1 hp, View.pageBetween]
  previous := fun i hi => by
    have hzero : i = 0 := Nat.lt_one_iff.1 hi
    subst hzero
    exact (previous_pageBetween view r total hleft).trans (by simp)
  next := fun i hi => by
    have hzero : i = 0 := Nat.lt_one_iff.1 hi
    subst hzero
    exact (next_pageBetween view r hlimit total).trans (by simp [hshort])

/-- A page in front of those that show the rest. -/
theorem covers_step {pages : List CursorPage} (hlong : limit < left.length)
    (h : Covers limit total (shown ++ left.take limit) (left.drop limit) pages) :
    Covers limit total shown left (view.pageBetween r limit total shown left :: pages) where
  length := by
    have hlength := h.length
    rw [List.length_drop] at hlength
    have hsplit : left.length + (limit - 1) = (left.length - limit + (limit - 1)) + limit := by omega
    have hsecond : 1 ≤ (left.length - limit + (limit - 1)) / limit :=
      (Nat.le_div_iff_mul_le hlimit).2 (by omega)
    rw [List.length_cons, hlength, hsplit, Nat.add_div_right _ hlimit]
    omega
  rows := by
    rw [List.flatMap_cons, h.rows]
    exact List.take_append_drop limit left
  totalCount := fun p hp => by
    rcases List.mem_cons.1 hp with rfl | hp
    · rfl
    · exact h.totalCount p hp
  previous := fun i hi => by
    cases i with
    | zero => exact (previous_pageBetween view r total hleft).trans (by simp)
    | succ i =>
      have hleft : left ≠ [] := fun hnil => by simp [hnil] at hlong
      have hne : shown ++ left.take limit ≠ [] := fun hnil =>
        take_ne_nil hlimit hleft (List.append_eq_nil_iff.1 hnil).2
      exact (h.previous i (Nat.lt_of_succ_lt_succ hi)).trans (by simp [hne])
  next := fun i hi => by
    cases i with
    | zero =>
      have hmore : 0 < pages.length := by
        rw [h.length]
        omega
      exact (next_pageBetween view r hlimit total).trans (by rw [List.length_cons]; omega)
    | succ i =>
      exact (h.next i (Nat.lt_of_succ_lt_succ hi)).trans (by rw [List.length_cons]; omega)

end Covers

section Runs

variable {cfg : Config} {source : Source} {r : CursorRequest} {rows : List Row}
  (hs : source.Sorts r.sortField) (hm : source.matching cfg r.filter = .ok rows)
  (h : (source.view r.sortField).TellsApart rows)
include hs hm h

theorem byCursor_since {shown left : List Row}
    (hsort : (source.view r.sortField).sort r.direction rows = shown ++ left) :
    source.byCursor cfg (r.since (source.view r.sortField) shown) =
      .ok ((source.view r.sortField).pageBetween r (cfg.resolveLimit r.limit).toNat rows.length
        shown left) := by
  have hf := source.isFaithful_view hs hm h.ofOneKind
  rw [← page_since hf h r hsort (one_le_resolveLimit cfg r.limit)]
  refine Source.byCursor_eq_page hs hm fun c hc row hrow => ?_
  obtain ⟨x, hx, rfl⟩ := Option.map_eq_some_iff.1 hc
  have hmem : x ∈ (source.view r.sortField).sort r.direction rows := by
    rw [hsort]
    exact List.mem_append_left _ (List.mem_of_getLast? hx)
  exact h.kind row hrow x ((StableSort.mem_sort _ rows x).1 hmem)

/-- From any request of a walk its pages show the rest of the sorted rows, which gets shorter with
every page. -/
theorem exists_walk {shown left : List Row} (hleft : left = [] → shown = [])
    (hsort : (source.view r.sortField).sort r.direction rows = shown ++ left) :
    ∃ pages, Walk (source.byCursor cfg) CursorRequest.forward
        (r.since (source.view r.sortField) shown) pages ∧
      Covers (cfg.resolveLimit r.limit).toNat rows.length shown left pages := by
  have hlimit := one_le_resolveLimit cfg r.limit
  have hfetch := byCursor_since hs hm h hsort
  by_cases hshort : left.length ≤ (cfg.resolveLimit r.limit).toNat
  · refine ⟨_, .last hfetch ?_, covers_last _ r hlimit _ hleft hshort⟩
    rw [CursorRequest.forward, (next_pageBetween _ r hlimit _).2 hshort, Option.map_none]
  · -- more rows are left than the page shows, and it shows one at least
    have hlong : (cfg.resolveLimit r.limit).toNat < left.length := Nat.lt_of_not_le hshort
    have hsort' : (source.view r.sortField).sort r.direction rows =
        (shown ++ left.take (cfg.resolveLimit r.limit).toNat) ++
          left.drop (cfg.resolveLimit r.limit).toNat := by
      rw [hsort, List.append_assoc, List.take_append_drop]
    have hleft' : left.drop (cfg.resolveLimit r.limit).toNat ≠ [] := by
      rw [ne_eq, List.drop_eq_nil_iff]
      exact hshort
    obtain ⟨pages, hwalk, hcovers⟩ := exists_walk (fun hnil => absurd hnil hleft') hsort'
    refine ⟨_, .step hfetch ?_ hwalk, covers_step _ r hlimit _ hleft hlong hcovers⟩
    exact forward_since _ r hlimit _ hleft'
termination_by left.length

end Runs

/-- The walk from the first page ends, and its pages show every row that the filter selects once, in
the order of the sort. -/
theorem forward_walk_visits_each_row_once (cfg : Config) (source : Source) (r : CursorRequest)
    {rows : List Row} (hcursor : r.cursor = none) (htowards : r.towards = .next)
    (hs : source.Sorts r.sortField) (hm : source.matching cfg r.filter = .ok rows)
    (h : (source.view r.sortField).TellsApart rows) :
    let limit := (cfg.resolveLimit r.limit).toNat
    ∃ pages : List CursorPage,
      (∀ ps, Walk (source.byCursor cfg) CursorRequest.forward r ps ↔ ps = pages) ∧
      pages.length = max 1 ((rows.length + (limit - 1)) / limit) ∧
      (pages.flatMap (·.list)).Perm rows ∧
      ((pages.flatMap (·.list)).Pairwise fun a b =>
        (source.view r.sortField).compare r.direction a b = .lt) ∧
      (∀ p ∈ pages, p.totalCount = rows.length) ∧
      ∀ i (hi : i < pages.length),
        (pages[i].previous = none ↔ i = 0) ∧ (pages[i].next = none ↔ i + 1 = pages.length) := by
  intro limit
  have hstart : r.since (source.view r.sortField) [] = r := by
    cases r
    simp_all [CursorRequest.since]
  obtain ⟨pages, hwalk, hcovers⟩ := exists_walk hs hm h (fun _ => rfl) (List.nil_append _).symm
  rw [hstart] at hwalk
  have hlength := hcovers.length
  have hrows := hcovers.rows
  refine ⟨pages, fun ps => ⟨fun hps => hps.unique hwalk, fun hps => hps ▸ hwalk⟩, ?_, ?_, ?_,
    hcovers.totalCount, fun i hi => ⟨?_, hcovers.next i hi⟩⟩
  · rw [hlength, View.sort, StableSort.length_sort]
  · rw [hrows]
    exact StableSort.sort_perm _ rows
  · rw [hrows]
    exact h.strictly_sorted_sort r.direction
  · exact (hcovers.previous i hi).trans (by simp)

theorem walk_three_scores :
    let store := Document.Collection.ofList
      ([7, 2, -1, 5].map fun n => [("score", Value.int n)])
    let r : CursorRequest := ⟨.map [("score", .map [("gt", .int 0)])], "score", .desc, some 2, none,
      .next⟩
    ∃ pages : List CursorPage,
      (∀ ps, Walk ((Source.documents store).byCursor .default) CursorRequest.forward r ps ↔
        ps = pages) ∧
      pages.length = 2 ∧
      (pages.flatMap (·.list)).Perm ([7, 2, 5].map fun n => [("score", Value.int n)]) := by
  intro store r
  have hm : (Source.documents store).matching .default r.filter =
      .ok ([7, 2, 5].map fun n => [("score", Value.int n)]) := rfl
  have hs : isNative "score" = false := by decide
  have h : ((Source.documents store).view r.sortField).TellsApart
      ([7, 2, 5].map fun n => [("score", Value.int n)]) := by
    constructor
    · intro row hrow
      obtain ⟨n, _, rfl⟩ := List.mem_map.1 hrow
      exact ⟨.int n, rfl, rfl, trivial⟩
    · intro a ha b hb
      obtain ⟨n, _, rfl⟩ := List.mem_map.1 ha
      obtain ⟨m, _, rfl⟩ := List.mem_map.1 hb
      rfl
    · decide +kernel
  obtain ⟨pages, hwalk, hlength, hperm, _⟩ :=
    forward_walk_visits_each_row_once .default (.documents store) r rfl rfl hs hm h
  exact ⟨pages, hwalk, hlength.trans (by decide), hperm⟩

end PagedFilter.Page
