import Mathlib.Data.List.Perm.Subperm
import PagedFilter.Proofs.Page.Edges
import PagedFilter.Proofs.Page.Walk

/-!
The pages that a walk visits, whatever values the rows are sorted by. A row that lies past a cursor is
of its kind and sorted behind it, unless the store has compared the items of its value. So as long as
every cursor is the sort value of the last row shown, each page stands behind those before it.
-/

namespace PagedFilter.Page

/-- The first pages of a walk from a request, whether or not a request follows the last of them. -/
inductive Visits (fetch : CursorRequest → Except StoreError CursorPage)
    (follow : CursorRequest → CursorPage → Option CursorRequest) :
    CursorRequest → List CursorPage → Prop where
  | last {r p} : fetch r = .ok p → Visits fetch follow r [p]
  | step {r p next rest} : fetch r = .ok p → follow r p = some next →
      Visits fetch follow next rest → Visits fetch follow r (p :: rest)

theorem Walk.visits {fetch : CursorRequest → Except StoreError CursorPage}
    {follow : CursorRequest → CursorPage → Option CursorRequest} {r : CursorRequest}
    {ps : List CursorPage} (h : Walk fetch follow r ps) : Visits fetch follow r ps := by
  induction h with
  | last hfetch _ => exact .last hfetch
  | step hfetch hnext _ ih => exact .step hfetch hnext ih

theorem Visits.exists_eq_cons {fetch : CursorRequest → Except StoreError CursorPage}
    {follow : CursorRequest → CursorPage → Option CursorRequest} {q : CursorRequest}
    {pages : List CursorPage} (h : Visits fetch follow q pages) :
    ∃ p rest, fetch q = .ok p ∧ pages = p :: rest := by
  cases h with
  | last hfetch => exact ⟨_, _, hfetch, rfl⟩
  | step hfetch _ _ => exact ⟨_, _, hfetch, rfl⟩

theorem exists_of_forward_eq_some {r next : CursorRequest} {p : CursorPage}
    (h : r.forward p = some next) : ∃ v, p.next = some v ∧ r.after v = next :=
  Option.map_eq_some_iff.1 h

/-! ### Rows past a cursor -/

theorem Direction.compare_self (d : Direction) (v : Value) : d.compare v v = .eq := by
  cases d <;> exact Value.compare_self v

namespace Source

/-- Whether a bound is tested on the items of a value and not on the value itself. -/
def ComparesItems : Source → Value → Prop
  | documents _, v => v.kind = .list
  | rows _ _ _, _ => False

/-- Whether the bound of a request for the page past a cursor is the cursor as it stands. -/
def Keeps (cfg : Config) (r : CursorRequest) : Source → Value → Prop
  | documents store, c =>
    documentCursor cfg store (documentFilter cfg r.filter) r.sortField c = .ok c
  | rows _ _ _, _ => True

/-- The cursor behind a page is the sort value of its last row, and bounds as it stands. -/
def HandsOn (cfg : Config) (r : CursorRequest) (source : Source) (p : CursorPage) : Prop :=
  ∀ v, p.next = some v → source.Keeps cfg r v ∧
    ∃ last, p.list.getLast? = some last ∧ (source.view r.sortField).key last = v

theorem kind_eq_of_lies (source : Source) (field : String) {side : Side} {c : Value} {row : Row}
    (hlies : (source.view field).lies side c row = true)
    (hitems : ¬source.ComparesItems ((source.view field).key row)) :
    ((source.view field).key row).kind = c.kind := by
  by_contra hkind
  have hfalse : (source.view field).lies side c row = false := by
    cases source with
    | documents store => exact isOrdered_of_ne_kind hkind hitems _
    | rows table base ctx => exact compareCell_of_ne_kind hkind side
  rw [hfalse] at hlies
  exact Bool.false_ne_true hlies

/-- A row that lies past a cursor is sorted behind it. -/
theorem beyond_of_lies (source : Source) (field : String) {d : Direction} {c : Value} {row : Row}
    (hlies : (source.view field).lies (Side.after d) c row = true)
    (hitems : ¬source.ComparesItems ((source.view field).key row)) :
    ((source.view field).key row).kind = c.kind ∧
      d.compare c ((source.view field).key row) = .lt := by
  have hkind := source.kind_eq_of_lies field hlies hitems
  exact ⟨hkind, (source.lies_iff_beyond field d .next hkind).1 hlies⟩

theorem comparesItems_iff_of_kind (source : Source) {v w : Value} (h : v.kind = w.kind) :
    source.ComparesItems v ↔ source.ComparesItems w := by
  cases source with
  | documents store => rw [ComparesItems, ComparesItems, h]
  | rows table base ctx => exact Iff.rfl

theorem byCursor_of_keeps {cfg : Config} {source : Source} {r : CursorRequest} {rows : List Row}
    (hs : source.Sorts r.sortField) (hm : source.matching cfg r.filter = .ok rows)
    (hc : ∀ c, r.cursor = some c → source.Keeps cfg r c) :
    source.byCursor cfg r =
      .ok ((source.view r.sortField).page r (cfg.resolveLimit r.limit).toNat rows) := by
  cases source with
  | documents store => exact documentsByCursor_eq_page hs hm hc
  | rows table base ctx => exact rowsByCursor_eq_page hs hm

end Source

/-! ### One page -/

section Forward

variable {view : View} {q : CursorRequest} {rows : List Row}

theorem View.mem_past_after {v : Value} {row : Row} (hrow : row ∈ rows)
    (hlies : view.lies (Side.after q.direction) v row = true) :
    row ∈ view.past (q.after v) rows := by
  refine (View.mem_past row).2 ⟨hrow, ?_⟩
  intro c hc
  rw [← Option.some.inj hc]
  exact hlies

variable (hq : q.towards = .next) {limit : Nat}
include hq

theorem View.list_forward : view.list q limit rows =
    (view.sort q.direction (view.past q rows)).take limit := by
  rw [View.list, inOrder, CursorRequest.fetchDirection, hq]

theorem View.subperm_list : (view.list q limit rows).Subperm rows := by
  have hpast : (view.past q rows).Sublist rows := by
    rw [View.past_eq_filter_all]
    exact List.filter_sublist
  have hperm : (view.sort q.direction (view.past q rows)).Perm (view.past q rows) :=
    StableSort.sort_perm _ _
  rw [View.list_forward hq]
  exact ((List.take_sublist limit _).subperm).trans (hperm.subperm.trans hpast.subperm)

theorem View.list_ne_nil (hlimit : 1 ≤ limit) {row : Row} (h : row ∈ view.past q rows) :
    view.list q limit rows ≠ [] := by
  rw [View.list_forward hq]
  apply take_ne_nil hlimit
  exact List.ne_nil_of_mem ((StableSort.mem_sort _ _ row).2 h)

/-- No row of a page is sorted behind its last row. -/
theorem View.not_gt_last (hfloat : ∀ row ∈ rows, (view.key row).IsFloatFree) {last : Row}
    (hlast : (view.list q limit rows).getLast? = some last) {row : Row}
    (hrow : row ∈ view.list q limit rows) : view.compare q.direction row last ≠ .gt := by
  have hpast : ∀ row ∈ view.past q rows, (view.key row).IsFloatFree := by
    intro row hrow
    exact hfloat row ((View.mem_past row).1 hrow).1
  have hleveled := StableSort.pairwise_sort (view.isOrderOn q.direction) hpast
  have hlist : (view.list q limit rows).Pairwise fun a b =>
      view.compare q.direction a b ≠ .gt := by
    rw [View.list_forward hq]
    exact hleveled.sublist (List.take_sublist limit _)
  obtain ⟨front, hfront⟩ := List.getLast?_eq_some_iff.1 hlast
  rw [hfront] at hlist hrow
  obtain ⟨_, _, hbefore⟩ := List.pairwise_append.1 hlist
  rcases List.mem_append.1 hrow with hrow | hrow
  · exact hbefore row hrow last List.mem_cons_self
  · rw [List.mem_singleton.1 hrow]
    have hself : view.compare q.direction last last = .eq := Direction.compare_self _ _
    rw [hself]
    decide

end Forward

/-! ### Pages one behind the other -/

/-- A bound at the sort value of a row keeps, among the rows with level values, only such that stand
behind that row in the sort; and if it keeps one of them the value that bounds is level too. -/
def Source.BoundsBySort (source : Source) (q : CursorRequest) (rows : List Row)
    (level : Value → Prop) : Prop :=
  ∀ c ∈ rows, ∀ row ∈ rows, (source.view q.sortField).lies (Side.after q.direction)
      ((source.view q.sortField).key c) row = true → level ((source.view q.sortField).key row) →
    level ((source.view q.sortField).key c) ∧
      (source.view q.sortField).compare q.direction c row = .lt

/-- Where no items are compared. -/
theorem Source.boundsBySort_of_not_comparesItems (source : Source) (q : CursorRequest)
    (rows : List Row) : source.BoundsBySort q rows fun v => ¬source.ComparesItems v := by
  intro c _ row _ hlies hitems
  obtain ⟨hkind, hbehind⟩ := source.beyond_of_lies q.sortField hlies hitems
  exact ⟨mt (source.comparesItems_iff_of_kind hkind).2 hitems, hbehind⟩

/-- What the pages of a walk come to that started from a request: they show rows that lie past its
cursor, and each page stands behind those before it, as far as bounds follow the sort. -/
structure Advances (source : Source) (q : CursorRequest) (rows : List Row) (level : Value → Prop)
    (pages : List CursorPage) : Prop where
  subperm : ∀ p ∈ pages, p.list.Subperm rows
  past : ∀ c ∈ rows, q.cursor = some ((source.view q.sortField).key c) →
    ∀ p ∈ pages, ∀ row ∈ p.list, level ((source.view q.sortField).key row) →
      level ((source.view q.sortField).key c) ∧
        (source.view q.sortField).compare q.direction c row = .lt
  ordered : pages.Pairwise fun p p' => ∀ a ∈ p.list, ∀ b ∈ p'.list,
    level ((source.view q.sortField).key b) →
      (source.view q.sortField).compare q.direction a b = .lt

theorem Advances.mem {source : Source} {q : CursorRequest} {rows : List Row} {level : Value → Prop}
    {pages : List CursorPage} (h : Advances source q rows level pages) {p : CursorPage}
    (hp : p ∈ pages) {row : Row} (hrow : row ∈ p.list) : row ∈ rows := (h.subperm p hp).subset hrow

section Runs

variable {cfg : Config} {source : Source} {rows : List Row}

section Advances

variable {level : Value → Prop} {q : CursorRequest} (hlevel : source.BoundsBySort q rows level)
include hlevel

theorem advances_page (hq : q.towards = .next) (limit : Nat) :
    Advances source q rows level [(source.view q.sortField).page q limit rows] := by
  have hlist := View.list_page (source.view q.sortField) q limit rows
  refine ⟨?_, ?_, List.pairwise_singleton _ _⟩
  · intro p hp
    rw [List.mem_singleton.1 hp, hlist]
    exact View.subperm_list hq
  · intro c hc hcursor p hp row hrow
    rw [List.mem_singleton.1 hp, hlist] at hrow
    obtain ⟨hmem, hpast⟩ := (View.mem_past row).1 (View.mem_past_of_mem_list hrow)
    have hlies := hpast _ hcursor
    rw [hq] at hlies
    exact hlevel c hc row hmem hlies

/-- A page in front of those that its own cursor leads to. -/
theorem Advances.cons (hq : q.towards = .next) {limit : Nat}
    (hfloat : ∀ row ∈ rows, ((source.view q.sortField).key row).IsFloatFree) {last : Row}
    (hlast : ((source.view q.sortField).list q limit rows).getLast? = some last)
    {rest : List CursorPage}
    (h : Advances source (q.after ((source.view q.sortField).key last)) rows level rest) :
    Advances source q rows level ((source.view q.sortField).page q limit rows :: rest) := by
  have hpage : Advances source q rows level [(source.view q.sortField).page q limit rows] :=
    advances_page hlevel hq limit
  have hlist := View.list_page (source.view q.sortField) q limit rows
  have hshown : last ∈ ((source.view q.sortField).page q limit rows).list := by
    rw [hlist]
    exact List.mem_of_getLast? hlast
  have hlastrow : last ∈ rows := hpage.mem List.mem_cons_self hshown
  have horder := (source.view q.sortField).isOrderOn q.direction
  refine ⟨?_, ?_, ?_⟩
  · exact List.forall_mem_cons.2 ⟨hpage.subperm _ List.mem_cons_self, h.subperm⟩
  · intro c hc hcursor
    refine List.forall_mem_cons.2 ⟨hpage.past c hc hcursor _ List.mem_cons_self, ?_⟩
    intro p hp row hrow hrowlevel
    obtain ⟨hlastlevel, hbehind⟩ := h.past last hlastrow rfl p hp row hrow hrowlevel
    obtain ⟨hclevel, hlastbehind⟩ :=
      hpage.past c hc hcursor _ List.mem_cons_self last hshown hlastlevel
    refine ⟨hclevel, ?_⟩
    apply horder.lt_of_not_gt_of_lt (hfloat c hc) (hfloat last hlastrow)
      (hfloat row (h.mem hp hrow))
    · rw [hlastbehind]
      decide
    · exact hbehind
  · refine List.pairwise_cons.2 ⟨?_, h.ordered⟩
    intro p hp a ha b hb hrowlevel
    have harow : a ∈ rows := hpage.mem List.mem_cons_self ha
    obtain ⟨_, hbehind⟩ := h.past last hlastrow rfl p hp b hb hrowlevel
    rw [hlist] at ha
    have hfront := View.not_gt_last hq hfloat hlast ha
    exact horder.lt_of_not_gt_of_lt (hfloat a harow) (hfloat last hlastrow)
      (hfloat b (h.mem hp hb)) hfront hbehind

end Advances

/-- By induction on the pages visited, the later ones first. -/
theorem advances_of_visits {level : Value → Prop} {q : CursorRequest} {pages : List CursorPage}
    (hv : Visits (source.byCursor cfg) CursorRequest.forward q pages)
    (hs : source.Sorts q.sortField) (hm : source.matching cfg q.filter = .ok rows)
    (hfloat : ∀ row ∈ rows, ((source.view q.sortField).key row).IsFloatFree)
    (hlevel : source.BoundsBySort q rows level) (hq : q.towards = .next)
    (hc : ∀ c, q.cursor = some c → source.Keeps cfg q c)
    (hon : ∀ p ∈ pages, source.HandsOn cfg q p) : Advances source q rows level pages := by
  induction hv with
  | @last q p hfetch =>
    have hpage := Source.byCursor_of_keeps hs hm hc
    rw [hfetch, Except.ok.injEq] at hpage
    rw [hpage]
    exact advances_page hlevel hq _
  | @step q p next rest hfetch hnext _ ih =>
    have hpage := Source.byCursor_of_keeps hs hm hc
    rw [hfetch, Except.ok.injEq] at hpage
    obtain ⟨v, hv, rfl⟩ := exists_of_forward_eq_some hnext
    obtain ⟨hkeeps, last, hlast, rfl⟩ := hon p List.mem_cons_self v hv
    have hlist : p.list = (source.view q.sortField).list q (cfg.resolveLimit q.limit).toNat rows := by
      rw [hpage, View.list_page]
    rw [hlist] at hlast
    have hcursor : ∀ c, some ((source.view q.sortField).key last) = some c →
        source.Keeps cfg q c := by
      intro c hc
      rw [← Option.some.inj hc]
      exact hkeeps
    have hrest := ih hs hm hfloat hlevel rfl hcursor fun p hp => hon p (List.mem_cons_of_mem _ hp)
    rw [hpage]
    exact Advances.cons hlevel hq hfloat hlast hrest

/-! ### Walks whose cursors are sort values -/

/-- The values at the edges of the rows are those that the rows are sorted by, and bound as they
stand. -/
structure Source.PassesOn (cfg : Config) (r : CursorRequest) (source : Source)
    (rows : List Row) : Prop where
  edge : ∀ row ∈ rows,
    (source.view r.sortField).edge row = (source.view r.sortField).value row
  keeps : ∀ row ∈ rows, ∀ v, (source.view r.sortField).edge row = some v → source.Keeps cfg r v

/-- The cursor behind a page is the value at the edge of its last row, and a row lies past it. -/
theorem View.exists_last_of_next {view : View} {q : CursorRequest} {limit : Nat} {v : Value}
    (h : (view.page q limit rows).next = some v) :
    ∃ last, (view.list q limit rows).getLast? = some last ∧ last ∈ view.past q rows ∧
      view.edge last = some v ∧ ∃ row ∈ rows, view.lies (Side.after q.direction) v row = true := by
  rw [View.page_eq] at h
  obtain ⟨hedge, hbeyond⟩ := (View.edgeTowards_eq_some_iff _ _ _ _ _).1 h
  obtain ⟨last, hlast, hedge⟩ := Option.bind_eq_some_iff.1 hedge
  have hpast := View.mem_past_of_mem_list (List.mem_of_getLast? hlast)
  exact ⟨last, hlast, hpast, hedge, hbeyond⟩

/-- So the page that it leads to shows rows. -/
theorem View.list_after_ne_nil {view : View} {q : CursorRequest} {limit : Nat} {v : Value}
    (hlimit : 1 ≤ limit) (h : (view.page q limit rows).next = some v) :
    view.list (q.after v) limit rows ≠ [] := by
  obtain ⟨_, _, _, _, row, hrow, hlies⟩ := View.exists_last_of_next h
  exact View.list_ne_nil rfl hlimit (View.mem_past_after hrow hlies)

section PassesOn

variable {q : CursorRequest} (h : source.PassesOn cfg q rows)
include h

theorem Source.PassesOn.handsOn (c : Option Value) (limit : Nat) :
    source.HandsOn cfg q ((source.view q.sortField).page
      { q with cursor := c, towards := .next } limit rows) := by
  intro v hv
  obtain ⟨last, hlast, hpast, hedge, _⟩ := View.exists_last_of_next hv
  have hrow := ((View.mem_past last).1 hpast).1
  refine ⟨h.keeps last hrow v hedge, last, ?_, ?_⟩
  · rw [View.list_page]
    exact hlast
  · rw [h.edge last hrow] at hedge
    exact View.key_of_value hedge

/-- Every page visited is made of the rows selected, for some cursor. -/
theorem Source.PassesOn.exists_page {pages : List CursorPage}
    (hv : Visits (source.byCursor cfg) CursorRequest.forward q pages)
    (hs : source.Sorts q.sortField) (hm : source.matching cfg q.filter = .ok rows)
    (hq : q.towards = .next) (hc : ∀ c, q.cursor = some c → source.Keeps cfg q c) :
    ∀ p ∈ pages, ∃ c, p = (source.view q.sortField).page
      { q with cursor := c, towards := .next } (cfg.resolveLimit q.limit).toNat rows := by
  have hself (q : CursorRequest) (hq : q.towards = .next) :
      { q with cursor := q.cursor, towards := .next } = q := by
    cases q
    cases hq
    rfl
  induction hv with
  | @last q p hfetch =>
    have hpage := Source.byCursor_of_keeps hs hm hc
    rw [hfetch, Except.ok.injEq] at hpage
    intro p hp
    rw [List.mem_singleton.1 hp, hpage]
    exact ⟨q.cursor, by rw [hself q hq]⟩
  | @step q p next rest hfetch hnext _ ih =>
    have hpage := Source.byCursor_of_keeps hs hm hc
    rw [hfetch, Except.ok.injEq] at hpage
    obtain ⟨v, hv, rfl⟩ := exists_of_forward_eq_some hnext
    rw [hpage] at hv
    obtain ⟨last, _, hpast, hedge, _⟩ := View.exists_last_of_next hv
    have hkeeps := h.keeps last ((View.mem_past last).1 hpast).1 v hedge
    have hcursor : ∀ c, some v = some c → source.Keeps cfg q c := by
      intro c hc
      rw [← Option.some.inj hc]
      exact hkeeps
    refine List.forall_mem_cons.2 ⟨⟨q.cursor, by rw [hself q hq, hpage]⟩, ?_⟩
    exact ih ⟨h.edge, h.keeps⟩ hs hm rfl hcursor

theorem Source.PassesOn.handsOn_of_visits {pages : List CursorPage}
    (hv : Visits (source.byCursor cfg) CursorRequest.forward q pages)
    (hs : source.Sorts q.sortField) (hm : source.matching cfg q.filter = .ok rows)
    (hq : q.towards = .next) (hc : ∀ c, q.cursor = some c → source.Keeps cfg q c) :
    ∀ p ∈ pages, source.HandsOn cfg q p := by
  intro p hp
  obtain ⟨c, rfl⟩ := h.exists_page hv hs hm hq hc p hp
  exact h.handsOn c _

end PassesOn

end Runs

end PagedFilter.Page
