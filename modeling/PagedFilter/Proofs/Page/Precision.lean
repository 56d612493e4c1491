import PagedFilter.Proofs.Page.Echo
import PagedFilter.Proofs.Page.Visited

/-!
Walks that take their cursors from the JSON of their pages, over documents that are sorted by dates. The
text of a date tells its millisecond. Going up, what is left of the millisecond lies past the next
cursor, and with it the document that the cursor was read from.
-/

namespace PagedFilter

theorem Value.compare_date (a b : Instant) : (Value.date a).compare (.date b) = a.compare b := by
  simp [Value.compare]

namespace Page

/-! ### Requests -/

/-- The request for the page after a page, its cursor taken from the JSON of the page. -/
def CursorRequest.echoed (r : CursorRequest) (p : CursorPage) : Option CursorRequest :=
  p.next.map fun v => r.after (Value.ofJson v.toJson)

/-- The request for the rows past the text of a date. -/
def CursorRequest.pastText (r : CursorRequest) (c : Option Instant) : CursorRequest :=
  { r with cursor := c.map fun t => .str t.text, towards := .next }

/-- The request for the rows past the millisecond of a date. -/
def CursorRequest.pastMillis (r : CursorRequest) (c : Option Instant) : CursorRequest :=
  { r with cursor := c.map fun t => .date t.toMillis, towards := .next }

/-- Every row has a date in the years of four digits, and no two have one date. -/
structure View.DatesApart (view : View) (rows : List Row) : Prop where
  shown : ∀ row ∈ rows, ∃ t, view.value row = some (.date t) ∧ t.IsShown
  distinct : rows.Pairwise fun a b => view.value a ≠ view.value b

section DatesApart

variable {view : View} {rows : List Row} (h : view.DatesApart rows)
include h

theorem View.DatesApart.exists_key {row : Row} (hrow : row ∈ rows) :
    ∃ t, view.key row = .date t ∧ t.IsShown := by
  obtain ⟨t, ht, hshown⟩ := h.shown row hrow
  exact ⟨t, View.key_of_value ht, hshown⟩

theorem View.DatesApart.tellsApart : view.TellsApart rows := by
  refine ⟨?_, ?_, ?_⟩
  · intro row hrow
    obtain ⟨t, ht, _⟩ := h.shown row hrow
    exact ⟨_, ht, rfl, trivial⟩
  · intro a ha b hb
    obtain ⟨t, ht, _⟩ := h.exists_key ha
    obtain ⟨u, hu, _⟩ := h.exists_key hb
    rw [ht, hu]
    rfl
  · refine h.distinct.imp_of_mem ?_
    intro a b ha hb hne heq
    obtain ⟨t, ht, _⟩ := h.shown a ha
    obtain ⟨u, hu, _⟩ := h.shown b hb
    rw [View.key_of_value ht, View.key_of_value hu] at heq
    have hsame : Value.date t = .date u := Value.eq_of_compare trivial trivial heq
    apply hne
    rw [ht, hu, hsame]

end DatesApart

/-! ### Pages of rows in strict order -/

section Order

variable {view : View} {rows : List Row} (h : view.TellsApart rows) {q : CursorRequest}
include h

theorem View.TellsApart.sorted_past : (view.sort q.direction (view.past q rows)).Pairwise
    fun a b => view.compare q.direction a b = .lt := by
  rw [View.past_eq_filter_all, h.sort_filter]
  exact (h.strictly_sorted_sort q.direction).sublist List.filter_sublist

variable (hq : q.towards = .next) {limit : Nat}
include hq

theorem View.TellsApart.sorted_list : (view.list q limit rows).Pairwise fun a b =>
    view.compare q.direction a b = .lt := by
  rw [View.list_forward hq]
  exact h.sorted_past.sublist (List.take_sublist _ _)

theorem View.TellsApart.nodup_list : (view.list q limit rows).Nodup := by
  refine (h.sorted_list hq).imp ?_
  intro a b hlt heq
  rw [heq, View.compare, Direction.compare_self] at hlt
  exact absurd hlt (by decide)

/-- Some row of a page stands no later than a given row past the cursor. -/
theorem View.TellsApart.exists_mem_list_not_gt (hlimit : 1 ≤ limit) {row : Row}
    (hrow : row ∈ view.past q rows) :
    ∃ first ∈ view.list q limit rows, view.compare q.direction first row ≠ .gt := by
  have hsorted := h.sorted_past (q := q)
  have hmem : row ∈ view.sort q.direction (view.past q rows) :=
    (StableSort.mem_sort _ _ row).2 hrow
  rw [View.list_forward hq]
  cases hnext : view.sort q.direction (view.past q rows) with
  | nil =>
    rw [hnext] at hmem
    exact absurd hmem List.not_mem_nil
  | cons first rest =>
    obtain ⟨k, rfl⟩ : ∃ k, limit = k + 1 := ⟨limit - 1, by omega⟩
    rw [hnext] at hmem hsorted
    refine ⟨first, List.mem_cons_self, ?_⟩
    rcases List.mem_cons.1 hmem with rfl | hmem
    · rw [View.compare, Direction.compare_self]
      decide
    · rw [(List.pairwise_cons.1 hsorted).1 row hmem]
      decide

/-- What lies past the cursor and stands no later than the last row of a page is on the page. -/
theorem View.TellsApart.mem_list_of_not_gt {last row : Row}
    (hlast : (view.list q limit rows).getLast? = some last) (hrow : row ∈ view.past q rows)
    (hle : view.compare q.direction row last ≠ .gt) : row ∈ view.list q limit rows := by
  have hsorted := h.sorted_past (q := q)
  have hmem : row ∈ view.sort q.direction (view.past q rows) :=
    (StableSort.mem_sort _ _ row).2 hrow
  have hfloat : ∀ row ∈ view.past q rows, (view.key row).IsFloatFree :=
    fun row hrow => h.isFloatFree ((View.mem_past row).1 hrow).1
  have hlastpast := View.mem_past_of_mem_list (List.mem_of_getLast? hlast)
  rw [View.list_forward hq] at hlast ⊢
  rw [← List.take_append_drop limit (view.sort q.direction _)] at hsorted hmem
  rcases List.mem_append.1 hmem with hshown | hleft
  · exact hshown
  · have hbehind := (List.pairwise_append.1 hsorted).2.2 last (List.mem_of_getLast? hlast) row hleft
    exact absurd hbehind ((view.isOrderOn q.direction).not_lt_of_not_gt (hfloat row hrow)
      (hfloat last hlastpast) hle)

end Order

/-! ### Pages past a millisecond -/

section Rows

variable {view : View} {r : CursorRequest} {rows : List Row} (h : view.DatesApart rows)
  (hf : view.IsFaithful rows)
include h hf

theorem mem_past_pastMillis (c : Option Instant) (row : Row) :
    row ∈ view.past (r.pastMillis c) rows ↔
      row ∈ rows ∧ ∀ t ∈ c, r.direction.compare (.date t.toMillis) (view.key row) = .lt := by
  rw [View.mem_past]
  refine and_congr_right fun hrow => ?_
  cases c with
  | none => simp [CursorRequest.pastMillis]
  | some t =>
    obtain ⟨u, hu, _⟩ := h.exists_key hrow
    have hkind : (view.key row).kind = (Value.date t.toMillis).kind := by
      rw [hu]
      rfl
    have hlies := hf.lies_after_cursor hrow r.direction rfl hkind
    have hside : Side.ofCursor r.direction .next = Side.after r.direction := rfl
    simp [CursorRequest.pastMillis, hside, hlies]

section Last

variable {c : Option Instant} {limit : Nat} {last : Row} {t : Instant}
  (hlast : (view.list (r.pastMillis c) limit rows).getLast? = some last)
  (ht : view.key last = .date t)
include hlast ht

/-- Past the millisecond of the last row lie rows that lay past the cursor of the page. -/
theorem past_last_subset {row : Row} (hrow : row ∈ view.past (r.pastMillis (some t)) rows) :
    row ∈ view.past (r.pastMillis c) rows := by
  have hlastpast := View.mem_past_of_mem_list (List.mem_of_getLast? hlast)
  rw [mem_past_pastMillis h hf] at hlastpast hrow ⊢
  refine ⟨hrow.1, ?_⟩
  intro u hu
  have hbehind := hrow.2 t rfl
  have hfront := hlastpast.2 u hu
  obtain ⟨v, hv, _⟩ := h.exists_key hrow.1
  rw [ht] at hfront
  rw [hv] at hbehind ⊢
  cases hd : r.direction with
  | asc =>
    rw [hd, Direction.compare, Value.compare_date] at hfront hbehind
    rw [Direction.compare, Value.compare_date]
    have hfront := Instant.not_gt_toMillis u.isMillis_toMillis hfront
    exact Instant.lt_of_not_gt_of_lt hfront hbehind
  | desc =>
    rw [hd, Direction.compare, Value.compare_date] at hfront hbehind
    rw [Direction.compare, Value.compare_date]
    have hbehind := Instant.lt_of_lt_of_not_gt hbehind t.toMillis_not_gt
    exact Instant.lt_of_lt_of_not_gt hbehind (by rw [hfront]; decide)

/-- Going down, or from a whole millisecond, the rows past the next cursor stand behind the page. -/
theorem behind_of_past (hexact : r.direction = .desc ∨ t.IsMillis) {a b : Row}
    (ha : a ∈ view.list (r.pastMillis c) limit rows)
    (hb : b ∈ view.past (r.pastMillis (some t)) rows) :
    view.compare r.direction a b = .lt := by
  have hlastrow : last ∈ rows :=
    ((mem_past_pastMillis h hf c last).1
      (View.mem_past_of_mem_list (List.mem_of_getLast? hlast))).1
  have harow : a ∈ rows :=
    ((mem_past_pastMillis h hf c a).1 (View.mem_past_of_mem_list ha)).1
  rw [mem_past_pastMillis h hf] at hb
  have hbehind := hb.2 t rfl
  obtain ⟨v, hv, _⟩ := h.exists_key hb.1
  have hlastbehind : view.compare r.direction last b = .lt := by
    rw [View.compare, ht, hv]
    rw [hv] at hbehind
    cases hd : r.direction with
    | asc =>
      have hmillis : t.IsMillis := hexact.resolve_left (by rw [hd]; decide)
      rw [hd, Instant.toMillis_of_isMillis hmillis] at hbehind
      exact hbehind
    | desc =>
      rw [hd, Direction.compare, Value.compare_date] at hbehind
      rw [Direction.compare, Value.compare_date]
      exact Instant.lt_of_lt_of_not_gt hbehind t.toMillis_not_gt
  have hfloat : ∀ row ∈ rows, (view.key row).IsFloatFree := fun row => h.tellsApart.isFloatFree
  have hfront : view.compare r.direction a last ≠ .gt := View.not_gt_last rfl hfloat hlast ha
  exact (view.isOrderOn r.direction).lt_of_not_gt_of_lt (hfloat a harow) (hfloat last hlastrow)
    (hfloat b hb.1) hfront hlastbehind

/-- Going up from a part of a millisecond, the next page shows a row of this page again. -/
theorem exists_shown_again (hasc : r.direction = .asc) (hpart : ¬t.IsMillis) (hlimit : 1 ≤ limit) :
    ∃ row ∈ view.list (r.pastMillis c) limit rows,
      row ∈ view.list (r.pastMillis (some t)) limit rows := by
  have hlastpast := View.mem_past_of_mem_list (List.mem_of_getLast? hlast)
  have hlastrow := ((mem_past_pastMillis h hf c last).1 hlastpast).1
  have hagain : last ∈ view.past (r.pastMillis (some t)) rows := by
    rw [mem_past_pastMillis h hf]
    refine ⟨hlastrow, ?_⟩
    intro u hu
    obtain rfl := Option.some.inj hu
    rw [ht, hasc, Direction.compare, Value.compare_date]
    exact Instant.toMillis_lt hpart
  obtain ⟨first, hfirst, hle⟩ := h.tellsApart.exists_mem_list_not_gt rfl hlimit hagain
  have hpast := past_last_subset h hf hlast ht (View.mem_past_of_mem_list hfirst)
  exact ⟨first, h.tellsApart.mem_list_of_not_gt rfl hlast hpast hle, hfirst⟩

end Last

end Rows

/-! ### Walks -/

/-- Whether the date of the last row of a page is a whole millisecond. -/
def View.EndsOnMillis (view : View) (p : CursorPage) : Prop :=
  ∀ last ∈ p.list.getLast?, ∀ t, view.key last = .date t → t.IsMillis

theorem View.endsOnMillis_iff {view : View} {p : CursorPage} {last : Row} {t : Instant}
    (hlast : p.list.getLast? = some last) (ht : view.key last = .date t) :
    view.EndsOnMillis p ↔ t.IsMillis := by
  constructor
  · intro hend
    exact hend last hlast t ht
  · intro hmillis other hother u hu
    obtain rfl := Option.some.inj (hlast.symm.trans hother)
    obtain rfl := Value.date.inj (ht.symm.trans hu)
    exact hmillis

section Visits

variable {view : View} {r : CursorRequest} {rows : List Row} (h : view.DatesApart rows)
  (hf : view.IsFaithful rows) {limit : Nat}
include h hf

/-- The request that follows a page asks for what lies past the date of its last row. -/
theorem exists_last_of_echoed {c : Option Instant} {next : CursorRequest}
    (hnext : (r.pastText c).echoed (view.page (r.pastMillis c) limit rows) = some next) :
    ∃ last t, (view.list (r.pastMillis c) limit rows).getLast? = some last ∧
      view.key last = .date t ∧ t.IsShown ∧ next = r.pastText (some t) := by
  obtain ⟨v, hv, rfl⟩ := Option.map_eq_some_iff.1 hnext
  obtain ⟨last, hlast, hpast, hedge, _⟩ := View.exists_last_of_next hv
  have hrow := ((View.mem_past last).1 hpast).1
  obtain ⟨t, ht, hshown⟩ := h.exists_key hrow
  rw [hf.edge last hrow, ht, Option.some.injEq] at hedge
  rw [← hedge]
  exact ⟨last, t, hlast, ht, hshown, rfl⟩

/-- A page in front of those that its own cursor leads to. -/
theorem nodup_cons_iff (hlimit : 1 ≤ limit) {c : Option Instant} {last : Row} {t : Instant}
    (hlast : (view.list (r.pastMillis c) limit rows).getLast? = some last)
    (ht : view.key last = .date t) {later : List CursorPage}
    (hpast : ∀ p ∈ view.page (r.pastMillis (some t)) limit rows :: later, ∀ row ∈ p.list,
      row ∈ view.past (r.pastMillis (some t)) rows) :
    ((view.page (r.pastMillis c) limit rows :: view.page (r.pastMillis (some t)) limit rows ::
        later).flatMap (·.list)).Nodup ↔
      (r.direction = .desc ∨ t.IsMillis) ∧
        ((view.page (r.pastMillis (some t)) limit rows :: later).flatMap (·.list)).Nodup := by
  rw [List.flatMap_cons, List.nodup_append, View.list_page]
  constructor
  · rintro ⟨_, hrest, hapart⟩
    refine ⟨?_, hrest⟩
    by_contra hexact
    obtain ⟨hdesc, hpart⟩ := not_or.1 hexact
    have hasc : r.direction = .asc := by
      cases hd : r.direction with
      | asc => rfl
      | desc => exact absurd hd hdesc
    obtain ⟨row, hrow, hagain⟩ := exists_shown_again h hf hlast ht hasc hpart hlimit
    refine hapart row hrow row ?_ rfl
    rw [List.flatMap_cons, View.list_page]
    exact List.mem_append_left _ hagain
  · rintro ⟨hexact, hrest⟩
    refine ⟨h.tellsApart.nodup_list rfl, hrest, ?_⟩
    rintro a ha b hb rfl
    obtain ⟨p, hp, hb⟩ := List.mem_flatMap.1 hb
    have hself := behind_of_past h hf hlast ht hexact ha (hpast p hp a hb)
    rw [View.compare, Direction.compare_self] at hself
    exact absurd hself (by decide)

/-- By induction on the pages visited: they show rows past the cursor, and no row twice unless the walk
goes up and some page that another follows does not end on a whole millisecond. -/
theorem nodup_iff_of_visits (hlimit : 1 ≤ limit)
    {fetch : CursorRequest → Except StoreError CursorPage}
    (hfetch : ∀ c : Option Instant, (∀ t ∈ c, t.IsShown) →
      fetch (r.pastText c) = .ok (view.page (r.pastMillis c) limit rows))
    {q : CursorRequest} {pages : List CursorPage}
    (hv : Visits fetch CursorRequest.echoed q pages) :
    ∀ c : Option Instant, (∀ t ∈ c, t.IsShown) → q = r.pastText c →
      (∀ p ∈ pages, ∀ row ∈ p.list, row ∈ view.past (r.pastMillis c) rows) ∧
      ((pages.flatMap (·.list)).Nodup ↔
        r.direction = .desc ∨ ∀ p ∈ pages.dropLast, view.EndsOnMillis p) := by
  induction hv with
  | @last q p hp =>
    rintro c hc rfl
    obtain rfl := Except.ok.inj ((hfetch c hc).symm.trans hp)
    refine ⟨?_, iff_of_true ?_ (.inr (by simp))⟩
    · intro p hp row hrow
      rw [List.mem_singleton.1 hp, View.list_page] at hrow
      exact View.mem_past_of_mem_list hrow
    · rw [List.flatMap_singleton, View.list_page]
      exact h.tellsApart.nodup_list rfl
  | @step q p next rest hp hnext hrest ih =>
    rintro c hc rfl
    obtain rfl := Except.ok.inj ((hfetch c hc).symm.trans hp)
    obtain ⟨last, t, hlast, ht, hshown, rfl⟩ := exists_last_of_echoed h hf hnext
    have hsome : ∀ u ∈ some t, u.IsShown := by
      intro u hu
      rw [← Option.some.inj hu]
      exact hshown
    obtain ⟨hpast, hnodup⟩ := ih (some t) hsome rfl
    obtain ⟨p', later, hp', rfl⟩ := hrest.exists_eq_cons
    obtain rfl := Except.ok.inj ((hfetch (some t) hsome).symm.trans hp')
    refine ⟨?_, ?_⟩
    · refine List.forall_mem_cons.2 ⟨?_, ?_⟩
      · intro row hrow
        rw [View.list_page] at hrow
        exact View.mem_past_of_mem_list hrow
      · intro p hp row hrow
        exact past_last_subset h hf hlast ht (hpast p hp row hrow)
    · have hends : view.EndsOnMillis (view.page (r.pastMillis c) limit rows) ↔ t.IsMillis := by
        apply View.endsOnMillis_iff _ ht
        rw [View.list_page]
        exact hlast
      rw [nodup_cons_iff h hf hlimit hlast ht hpast, hnodup,
        List.dropLast_cons_of_ne_nil (List.cons_ne_nil _ _), List.forall_mem_cons, hends]
      exact or_and_left.symm

end Visits

/-! ### Documents -/

section Documents

variable {cfg : Config} {store : Document.Collection} {r : CursorRequest} {rows : List Row}

theorem key_eq_date_iff {field : String} {row : Row} {t : Instant} :
    ((Source.documents store).view field).key row = .date t ↔
      Value.lookup row field = some (.date t) := by
  show (Value.lookup row field).getD .null = .date t ↔ _
  cases Value.lookup row field <;> simp

theorem documentsByCursor_pastText (hcast : cfg.castDates = true)
    (hf : isNative r.sortField = false)
    (hm : store.select (documentFilter cfg r.filter) = .ok rows)
    (hdates : ∀ row ∈ rows, ∃ t, Value.lookup row r.sortField = some (.date t))
    {c : Option Instant} (hc : ∀ t ∈ c, t.IsShown) :
    documentsByCursor cfg store (r.pastText c) =
      .ok (((Source.documents store).view r.sortField).page (r.pastMillis c)
        (cfg.resolveLimit r.limit).toNat rows) := by
  have hmillis : documentsByCursor cfg store (r.pastMillis c) =
      .ok (((Source.documents store).view r.sortField).page (r.pastMillis c)
        (cfg.resolveLimit r.limit).toNat rows) := by
    apply documentsByCursor_eq_page (r := r.pastMillis c) hf hm
    intro v hv
    obtain ⟨t, _, rfl⟩ := Option.map_eq_some_iff.1 hv
    exact documentCursor_of_castDates cfg hf hm rfl
  cases c with
  | none => exact hmillis
  | some t =>
    have hread := Instant.read?_text (hc t rfl)
    rw [documentsByCursor_of_read? (q := r.pastText (some t)) hcast hread rfl]
    · exact hmillis
    · intro found hfound
      obtain rfl := Except.ok.inj (hm.symm.trans hfound)
      exact hdates

theorem exists_probe_of_pageOf {r : CursorRequest} {field : String} {list : List Row} {total : Nat}
    {probe : Side → Value → Except StoreError Bool} {p : CursorPage}
    (h : pageOf r field list total probe = .ok p) {v : Value}
    (hv : list.head?.bind (sortValue · field) = some v) :
    ∃ b, probe (Side.before r.direction) v = .ok b := by
  rw [pageOf, edges, hv] at h
  obtain ⟨b, hb, _⟩ := exists_of_bind_eq_ok h
  exact ⟨b, hb⟩

theorem View.exists_first_shown (view : View) (q : CursorRequest) {limit : Nat}
    (hlimit : 1 ≤ limit) (hne : rows ≠ []) :
    ∃ first rest, inOrder q ((view.sort q.fetchDirection rows).take limit) = first :: rest ∧
      first ∈ rows := by
  have hsorted : view.sort q.fetchDirection rows ≠ [] := by
    intro hnil
    have hlength := StableSort.length_sort (view.compare q.fetchDirection) rows
    rw [View.sort] at hnil
    rw [hnil] at hlength
    exact hne (List.length_eq_zero_iff.1 hlength.symm)
  have hfetched := take_ne_nil hlimit hsorted
  have hshown : inOrder q ((view.sort q.fetchDirection rows).take limit) ≠ [] := by
    rw [inOrder]
    cases q.towards with
    | next => exact hfetched
    | previous => exact mt List.reverse_eq_nil_iff.1 hfetched
  obtain ⟨first, rest, hlist⟩ := List.exists_cons_of_ne_nil hshown
  have hmem := mem_of_mem_inOrder (hlist ▸ List.mem_cons_self : first ∈ inOrder q _)
  exact ⟨first, rest, hlist, (StableSort.mem_sort _ _ _).1 (List.mem_of_mem_take hmem)⟩

/-- Under a key that names no field nothing is shown: a page with rows would be probed. -/
theorem rows_eq_nil_of_isNative {q : CursorRequest} {p : CursorPage}
    (hnative : isNative q.sortField = true) (hcursor : q.cursor = none)
    (hrows : store.select (documentFilter cfg q.filter) = .ok rows)
    (hvalues : ∀ row ∈ rows, ∃ v, Value.lookup row q.sortField = some v)
    (h : documentsByCursor cfg store q = .ok p) : rows = [] := by
  by_contra hne
  rw [documentsByCursor_eq_pageWithin, documentList, hcursor] at h
  obtain ⟨filter, hfilter, h⟩ := exists_of_bind_eq_ok h
  obtain rfl := Except.ok.inj hfilter
  obtain ⟨fetched, hfetched, h⟩ := exists_of_bind_eq_ok h
  obtain ⟨total, _, h⟩ := exists_of_bind_eq_ok h
  rw [find_sorted hrows, Except.ok.injEq, List.drop_zero] at hfetched
  obtain ⟨first, rest, hlist, hfirst⟩ := View.exists_first_shown
    ((Source.documents store).view q.sortField) q (one_le_resolveLimit cfg q.limit) hne
  rw [hfetched] at hlist
  obtain ⟨v, hv⟩ := hvalues first hfirst
  have hvalue : (inOrder q fetched).head?.bind (sortValue · q.sortField) = some v := by
    rw [hlist, List.head?_cons, Option.bind_some, sortValue_of_lookup hv]
  obtain ⟨b, hb⟩ := exists_probe_of_pageOf h hvalue
  obtain ⟨e, he⟩ := clauseOutcome_of_isNative hnative
  rw [documentProbe_of_clauseOutcome he hrows hne] at hb
  simp at hb

/-- A walk under a key that names no field shows nothing. -/
theorem eq_nil_of_mem_visits_of_isNative {q : CursorRequest}
    {pages : List CursorPage} (hnative : isNative q.sortField = true) (hcursor : q.cursor = none)
    (hrows : store.select (documentFilter cfg q.filter) = .ok rows)
    (hvalues : ∀ row ∈ rows, ∃ v, Value.lookup row q.sortField = some v)
    (hv : Visits (documentsByCursor cfg store) CursorRequest.echoed q pages) :
    pages.dropLast = [] ∧ pages.flatMap (·.list) = [] := by
  have hpage : ∀ p, documentsByCursor cfg store q = .ok p → p.list = [] ∧ p.next = none := by
    intro p hp
    obtain rfl := rows_eq_nil_of_isNative hnative hcursor hrows hvalues hp
    obtain rfl := Except.ok.inj ((documentsByCursor_of_no_rows hrows).symm.trans hp)
    exact ⟨rfl, rfl⟩
  cases hv with
  | @last _ p hp => simp [(hpage p hp).1]
  | @step _ p next rest hp hnext _ => simp [CursorRequest.echoed, (hpage p hp).2] at hnext

/-- A walk that takes its cursors from the JSON of its pages gets a page for every cursor. It shows no
document twice exactly if it goes down, or every page that another follows ends on a document whose date
is a whole millisecond. -/
theorem echoed_walk_repeats_parts_of_millis (cfg : Config) (hcast : cfg.castDates = true)
    (store : Document.Collection) (r : CursorRequest) (hcursor : r.cursor = none)
    (htowards : r.towards = .next)
    (hm : store.select (documentFilter cfg r.filter) = .ok rows)
    (hdates : ∀ row ∈ rows, ∃ t, Value.lookup row r.sortField = some (.date t) ∧ t.IsShown)
    (hdistinct : rows.Pairwise fun a b =>
      Value.lookup a r.sortField ≠ Value.lookup b r.sortField) :
    (isNative r.sortField = false →
      ∀ c : Option Value, ∃ p, documentsByCursor cfg store { r with cursor := c } = .ok p) ∧
    ∀ pages, Visits (documentsByCursor cfg store) CursorRequest.echoed r pages →
      ((pages.flatMap (·.list)).Nodup ↔
        r.direction = .desc ∨ ∀ p ∈ pages.dropLast, ∀ last ∈ p.list.getLast?, ∀ t,
          Value.lookup last r.sortField = some (.date t) → t.IsMillis) := by
  have hvalues : ∀ row ∈ rows, ∃ t, Value.lookup row r.sortField = some (.date t) := by
    intro row hrow
    obtain ⟨t, ht, _⟩ := hdates row hrow
    exact ⟨t, ht⟩
  refine ⟨?_, ?_⟩
  · intro hf c
    obtain ⟨read, hread⟩ := exists_documentCursor_eq_ok cfg hf hm
    exact ⟨_, documentsByCursor_eq_page_of_read (r := { r with cursor := c }) hf hm
      fun c _ => hread c⟩
  · intro pages hv
    by_cases hf : isNative r.sortField = false
    · have h : ((Source.documents store).view r.sortField).DatesApart rows := ⟨hdates, hdistinct⟩
      have hselects : (Source.documents store).matching cfg r.filter = .ok rows := hm
      have hsorts : (Source.documents store).Sorts r.sortField := hf
      have hfaithful := Source.isFaithful_view hsorts hselects h.tellsApart.ofOneKind
      have hfetch : ∀ c : Option Instant, (∀ t ∈ c, t.IsShown) →
          documentsByCursor cfg store (r.pastText c) =
            .ok (((Source.documents store).view r.sortField).page (r.pastMillis c)
              (cfg.resolveLimit r.limit).toNat rows) :=
        fun c hc => documentsByCursor_pastText hcast hf hm hvalues hc
      have hstart : r = r.pastText none := by
        cases r
        simp_all [CursorRequest.pastText]
      obtain ⟨_, hnodup⟩ := nodup_iff_of_visits h hfaithful (one_le_resolveLimit cfg r.limit)
        hfetch hv none (by simp) hstart
      rw [hnodup]
      simp only [View.EndsOnMillis, key_eq_date_iff]
    · obtain ⟨hlast, hshown⟩ := eq_nil_of_mem_visits_of_isNative (Bool.not_eq_false _ ▸ hf) hcursor
        hm (fun row hrow => ⟨_, (hvalues row hrow).choose_spec⟩) hv
      rw [hlast, hshown]
      exact iff_of_true List.nodup_nil (.inr (List.forall_mem_nil _))

end Documents

theorem part_of_millis_at_the_end :
    let row (t : Instant) : Row := [("at", .date t)]
    let store := Document.Collection.ofList [row ⟨1, 500000⟩, row ⟨0, 7000000⟩]
    let r : CursorRequest := ⟨.map [], "at", .asc, some 1, none, .next⟩
    ∃ first second, Visits (documentsByCursor .default store) CursorRequest.echoed r
      [first, second] ∧ ([first, second].flatMap (·.list)).Nodup := by
  intro row store r
  have hv : Visits (documentsByCursor .default store) CursorRequest.echoed r
      [⟨[row ⟨0, 7000000⟩], 2, ⟨"at", .asc⟩, some (.date ⟨0, 7000000⟩), none⟩,
        ⟨[row ⟨1, 500000⟩], 2, ⟨"at", .asc⟩, none, some (.date ⟨1, 500000⟩)⟩] :=
    .step (by decide +kernel) rfl (.last (by decide +kernel))
  have hm : store.select (documentFilter .default r.filter) = .ok store.docs := rfl
  have hdates : ∀ row ∈ store.docs, ∃ t, Value.lookup row r.sortField = some (.date t) ∧
      t.IsShown := by
    refine List.forall_mem_cons.2 ⟨⟨⟨1, 500000⟩, rfl, by decide, by decide, by decide⟩, ?_⟩
    exact List.forall_mem_singleton.2 ⟨⟨0, 7000000⟩, rfl, by decide, by decide, by decide⟩
  obtain ⟨_, hnodup⟩ := echoed_walk_repeats_parts_of_millis .default rfl store r rfl rfl hm
    hdates (by decide +kernel)
  refine ⟨_, _, hv, (hnodup _ hv).2 (.inr ?_)⟩
  refine List.forall_mem_singleton.2 ?_
  intro last hlast t ht
  obtain rfl := Option.some.inj hlast
  obtain rfl := Value.date.inj (Option.some.inj ht)
  decide

/-- Going up from a date half a millisecond after its text, the same page comes again and again. -/
theorem page_comes_again :
    let row (t : Instant) : Row := [("at", .date t)]
    let rows := [row ⟨0, 500000⟩, row ⟨1, 0⟩]
    let store := Document.Collection.ofList rows
    let r : CursorRequest := ⟨.map [], "at", .asc, some 1, none, .next⟩
    let page : CursorPage := ⟨[row ⟨0, 500000⟩], 2, ⟨"at", .asc⟩, some (.date ⟨0, 500000⟩), none⟩
    isNative r.sortField = false ∧
      store.select (documentFilter .default r.filter) = .ok rows ∧
      (∀ row ∈ rows, ∃ t, Value.lookup row r.sortField = some (.date t) ∧ t.IsShown) ∧
      (rows.Pairwise fun a b => Value.lookup a r.sortField ≠ Value.lookup b r.sortField) ∧
      ∀ n, Visits (documentsByCursor .default store) CursorRequest.echoed r
        (List.replicate (n + 1) page) := by
  intro row rows store r page
  have hdates : ∀ row ∈ rows, ∃ t, Value.lookup row r.sortField = some (.date t) ∧
      t.IsShown := by
    refine List.forall_mem_cons.2 ⟨⟨⟨0, 500000⟩, rfl, by decide, by decide, by decide⟩, ?_⟩
    exact List.forall_mem_singleton.2 ⟨⟨1, 0⟩, rfl, by decide, by decide, by decide⟩
  refine ⟨by decide, rfl, hdates, by decide +kernel, ?_⟩
  have hfirst : documentsByCursor .default store r = .ok page := by decide +kernel
  have hagain : documentsByCursor .default store (r.pastText (some ⟨0, 500000⟩)) = .ok page := by
    decide +kernel
  -- the text of the cursor is one millisecond in every round, so a round leads to itself
  have hround : ∀ n, Visits (documentsByCursor .default store) CursorRequest.echoed
      (r.pastText (some ⟨0, 500000⟩)) (List.replicate (n + 1) page) := by
    intro n
    induction n with
    | zero => exact .last hagain
    | succ n ih => exact .step hagain rfl ih
  intro n
  cases n with
  | zero => exact .last hfirst
  | succ n => exact .step hfirst rfl (hround n)

end Page

end PagedFilter
