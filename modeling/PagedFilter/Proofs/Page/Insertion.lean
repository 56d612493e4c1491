import PagedFilter.Proofs.Page.Echo
import PagedFilter.Proofs.Page.Visited

/-!
One set of documents, inserted in two orders. Sorting by values that all differ forgets the order of
insertion, and so do totals and probes. What remembers it is the reading of a cursor: whether a date-time
string stands for a date is asked of the first document that has the sort field.
-/

namespace PagedFilter

namespace Page

open Document

/-! ### Pages -/

section Perm

variable {view : View} {rows others : List Row} (hperm : others.Perm rows)
  (hfloat : ∀ row ∈ rows, (view.key row).IsFloatFree)
  (hdistinct : rows.Pairwise fun a b => (view.key a).compare (view.key b) ≠ .eq)
include hperm hfloat hdistinct

/-- Rows with different sort values have one order by them. -/
theorem View.sort_perm (d : Direction) : view.sort d others = view.sort d rows := by
  have hothers : ∀ row ∈ others, (view.key row).IsFloatFree :=
    fun row hrow => hfloat row (hperm.mem_iff.1 hrow)
  have hsorted : (view.sort d rows).Pairwise fun a b => view.compare d a b = .lt := by
    apply StableSort.strictly_sorted_sort (view.isOrderOn d) hfloat
    cases d with
    | asc => exact hdistinct
    | desc =>
      refine hdistinct.imp_of_mem ?_
      intro a b ha hb hne
      exact Value.isOrderOn_compare.ne_eq_symm (hfloat a ha) (hfloat b hb) hne
  exact StableSort.sort_eq_of_perm (view.isOrderOn d) hothers
    (hperm.trans (StableSort.sort_perm _ rows).symm) hsorted

theorem View.page_perm (q : CursorRequest) (limit : Nat) :
    view.page q limit others = view.page q limit rows := by
  have hpast : (view.past q others).Perm (view.past q rows) := by
    rw [View.past_eq_filter_all, View.past_eq_filter_all]
    exact hperm.filter _
  have hsub : (view.past q rows).Sublist rows := by
    rw [View.past_eq_filter_all]
    exact List.filter_sublist
  have hlist : view.list q limit others = view.list q limit rows := by
    rw [View.list, View.list, View.sort_perm hpast (fun row hrow => hfloat row (hsub.subset hrow))
      (hdistinct.sublist hsub)]
  have hedge : ∀ side edge, view.edgeTowards side others edge = view.edgeTowards side rows edge := by
    intro side edge
    simp only [View.edgeTowards, hperm.any_eq]
  rw [View.page_eq, View.page_eq, hlist, hperm.length_eq]
  simp only [hedge]

end Perm

/-! ### Reading the cursor -/

section Read

variable {cfg : Config} {store : Collection} {rows : List Row}

/-- The cursor as the documents found have it read. -/
def CursorRequest.read (cfg : Config) (r : CursorRequest) (found : List Row) : Option Value :=
  if cfg.castDates && firstHoldsDate r.sortField found then r.cursor.map Filter.castDates
  else r.cursor

theorem documentsByCursor_eq_page_read {r : CursorRequest} (hf : isNative r.sortField = false)
    (h : store.select (documentFilter cfg r.filter) = .ok rows) :
    documentsByCursor cfg store r = .ok (((Source.documents store).view r.sortField).page
      { r with cursor := r.read cfg rows } (cfg.resolveLimit r.limit).toNat rows) := by
  have hcursor : r.read cfg rows = r.cursor.map fun c =>
      if cfg.castDates && firstHoldsDate r.sortField rows then Filter.castDates c else c := by
    rw [CursorRequest.read]
    cases cfg.castDates && firstHoldsDate r.sortField rows with
    | true => rfl
    | false => exact Option.map_id'.symm
  rw [hcursor]
  exact documentsByCursor_eq_page_of_read hf h fun c _ =>
    documentCursor_eq_ok (storesDates_eq_ok hf h) c

end Read

/-! ### Keys that name no field -/

/-- A key that names no field fails on every document alike, whichever is the first. -/
theorem documentsByCursor_perm_of_isNative {cfg : Config} {store other : Collection}
    {q : CursorRequest} {rows others : List Row} (hnative : isNative q.sortField = true)
    (h : store.select (documentFilter cfg q.filter) = .ok rows)
    (ho : other.select (documentFilter cfg q.filter) = .ok others) (hperm : others.Perm rows)
    (hfloat : ∀ row ∈ rows, (((Source.documents store).view q.sortField).key row).IsFloatFree)
    (hdistinct : rows.Pairwise fun a b =>
      (((Source.documents store).view q.sortField).key a).compare
        (((Source.documents store).view q.sortField).key b) ≠ .eq) :
    documentsByCursor cfg store q = documentsByCursor cfg other q := by
  obtain ⟨e, he⟩ := clauseOutcome_of_isNative hnative
  by_cases hne : rows = []
  · subst hne
    rw [hperm.eq_nil] at ho
    rw [documentsByCursor_of_no_rows h, documentsByCursor_of_no_rows ho]
  · have hothers : others ≠ [] := by
      rintro rfl
      exact hne hperm.symm.eq_nil
    cases hcursor : q.cursor with
    | some c =>
      rw [documentsByCursor_of_clauseOutcome hcursor he h hne,
        documentsByCursor_of_clauseOutcome hcursor he ho hothers]
    | none =>
      have hprobe : documentProbe store (documentFilter cfg q.filter) q.sortField =
          documentProbe other (documentFilter cfg q.filter) q.sortField := by
        funext side v
        rw [documentProbe_of_clauseOutcome he h hne, documentProbe_of_clauseOutcome he ho hothers]
      have hsort : ((Source.documents other).view q.sortField).sort q.fetchDirection others =
          ((Source.documents store).view q.sortField).sort q.fetchDirection rows :=
        View.sort_perm hperm hfloat hdistinct q.fetchDirection
      rw [documentsByCursor_eq_pageWithin, documentsByCursor_eq_pageWithin, documentList,
        documentList, hcursor]
      show pageWithin cfg store q (documentFilter cfg q.filter) =
        pageWithin cfg other q (documentFilter cfg q.filter)
      rw [pageWithin, pageWithin, find_sorted h, find_sorted ho, count_of_select h,
        count_of_select ho, hperm.length_eq, hprobe, hsort]

/-! ### Two orders of insertion -/

theorem exists_select_perm {store : Collection} {docs : List Row} (hperm : docs.Perm store.docs)
    {base : Value} {rows : List Row} (h : store.select base = .ok rows) :
    ∃ others, Collection.select { store with docs := docs } base = .ok others ∧
      others.Perm rows := by
  rw [Collection.select] at h
  cases hf : store.failure with
  | some reason => simp [hf] at h
  | none =>
    simp only [hf] at h
    obtain ⟨others, hothers, hrows⟩ := exists_filterUntilError_perm hperm h
    refine ⟨others, ?_, hrows⟩
    rw [Collection.select]
    simpa only [hf] using hothers

/-- Of rows that all hold a date where they have the field, the first one that has it does. -/
theorem firstHoldsDate_of_dates {field : String} {rows : List Row}
    (h : ∀ row ∈ rows, ∀ v, Value.lookup row field = some v → v.kind = .date) :
    firstHoldsDate field rows = rows.any fun row => (Value.lookup row field).isSome := by
  induction rows with
  | nil => rfl
  | cons row rest ih =>
    cases hrow : Value.lookup row field with
    | none =>
      rw [firstHoldsDate, List.findSome?_cons, List.any_cons, hrow]
      exact ih fun other hother => h other (List.mem_cons_of_mem row hother)
    | some v =>
      rw [firstHoldsDate, List.findSome?_cons, List.any_cons, hrow]
      simp [h row List.mem_cons_self v hrow]

/-- The order of the documents found is of no consequence for the cursor where no string is taken for a
date, or the sort field holds nothing but dates, or no dates. -/
theorem CursorRequest.read_perm {cfg : Config} {r : CursorRequest} {rows others : List Row}
    (hperm : others.Perm rows)
    (h : cfg.castDates = false ∨ r.cursor.map Filter.castDates = r.cursor ∨
      (∀ row ∈ rows, ∀ v, Value.lookup row r.sortField = some v → v.kind = .date) ∨
      ∀ row ∈ rows, ∀ v, Value.lookup row r.sortField = some v → v.kind ≠ .date) :
    r.read cfg rows = r.read cfg others := by
  rw [CursorRequest.read, CursorRequest.read]
  rcases h with hoff | hsame | hdates | hnone
  · rw [hoff]
    rfl
  · rw [hsame, ite_self, ite_self]
  · have hothers := fun row hrow => hdates row (hperm.mem_iff.1 hrow)
    rw [firstHoldsDate_of_dates hdates, firstHoldsDate_of_dates hothers, hperm.any_eq]
  · have hrows : ∀ row ∈ rows, ∀ t, Value.lookup row r.sortField ≠ some (.date t) :=
      fun row hrow t ht => hnone row hrow _ ht rfl
    have hothers := fun row hrow => hrows row (hperm.mem_iff.1 hrow)
    rw [firstHoldsDate_eq_false hrows, firstHoldsDate_eq_false hothers]

/-- Documents that the filter accepts and whose sort values all differ make one page in every order of
insertion, but for the cursor: a date-time string is read as a date where the first of them that has the
sort field holds a date. So two orders give one result exactly if the two readings of the cursor make one
page. -/
theorem insertion_order_decides_cast (cfg : Config) (store : Collection) {docs : List Row}
    (hperm : docs.Perm store.docs) (r : CursorRequest) {rows : List Row}
    (hm : store.select (documentFilter cfg r.filter) = .ok rows)
    (hfloat : ∀ row ∈ rows, ((Value.lookup row r.sortField).getD .null).IsFloatFree)
    (hdistinct : rows.Pairwise fun a b => ((Value.lookup a r.sortField).getD .null).compare
      ((Value.lookup b r.sortField).getD .null) ≠ .eq) :
    let other : Collection := { store with docs := docs }
    let page (c : Option Value) := ((Source.documents store).view r.sortField).page
      { r with cursor := c } (cfg.resolveLimit r.limit).toNat rows
    ∃ others, other.select (documentFilter cfg r.filter) = .ok others ∧ others.Perm rows ∧
      (isNative r.sortField = false →
        documentsByCursor cfg store r = .ok (page (r.read cfg rows)) ∧
        documentsByCursor cfg other r = .ok (page (r.read cfg others))) ∧
      (documentsByCursor cfg store r = documentsByCursor cfg other r ↔
        isNative r.sortField = true ∨ page (r.read cfg rows) = page (r.read cfg others)) ∧
      (cfg.castDates = false ∨ r.cursor.map Filter.castDates = r.cursor ∨
          (∀ row ∈ rows, ∀ v, Value.lookup row r.sortField = some v → v.kind = .date) ∨
          (∀ row ∈ rows, ∀ v, Value.lookup row r.sortField = some v → v.kind ≠ .date) →
        r.read cfg rows = r.read cfg others) := by
  intro other page
  obtain ⟨others, ho, hrows⟩ := exists_select_perm hperm hm
  refine ⟨others, ho, hrows, ?_⟩
  cases hf : isNative r.sortField with
  | true =>
    have hresult := documentsByCursor_perm_of_isNative hf hm ho hrows hfloat hdistinct
    exact ⟨fun hf' => absurd hf' (by decide), iff_of_true hresult (.inl rfl), CursorRequest.read_perm hrows⟩
  | false =>
    have hpage : documentsByCursor cfg store r = .ok (page (r.read cfg rows)) :=
      documentsByCursor_eq_page_read hf hm
    have hkeys : ∀ row ∈ rows, (((Source.documents other).view r.sortField).key row).IsFloatFree :=
      hfloat
    have hpage' : documentsByCursor cfg other r = .ok (page (r.read cfg others)) := by
      rw [documentsByCursor_eq_page_read hf ho]
      have hsame : ((Source.documents other).view r.sortField).page
          { r with cursor := r.read cfg others } (cfg.resolveLimit r.limit).toNat others =
            page (r.read cfg others) := View.page_perm hrows hkeys hdistinct _ _
      rw [hsame]
    refine ⟨fun _ => ⟨hpage, hpage'⟩, ?_, CursorRequest.read_perm hrows⟩
    rw [hpage, hpage', Except.ok.injEq]
    exact ⟨.inr, fun h => h.resolve_left Bool.false_ne_true⟩

/-- Dates in two orders, past a string that is read as one of them in both. -/
theorem dates_in_two_orders :
    let row (seconds : Int) : Row := [("at", .date ⟨seconds, 0⟩)]
    let r : CursorRequest :=
      ⟨.map [], "at", .desc, some 1, some (.str "2023-01-01T00:00:00Z"), .previous⟩
    documentsByCursor .default (.ofList [row 0, row 1672531200, row 1704067200]) r =
      documentsByCursor .default (.ofList [row 1672531200, row 0, row 1704067200]) r := by
  intro row r
  have hdates : ∀ x ∈ [row 0, row 1672531200, row 1704067200], ∀ v,
      Value.lookup x r.sortField = some v → v.kind = .date := by
    intro x hx v hv
    simp only [List.mem_cons, List.not_mem_nil, or_false] at hx
    rcases hx with rfl | rfl | rfl <;> exact Option.some.inj hv ▸ rfl
  obtain ⟨_, _, _, _, hsame, hread⟩ := insertion_order_decides_cast .default
    (.ofList [row 0, row 1672531200, row 1704067200]) (.swap _ _ _) r rfl (by decide +kernel)
    (by decide +kernel)
  refine hsame.2 (.inr ?_)
  rw [hread (.inr (.inr (.inl hdates)))]

/-- A date and two date-time strings: past the lesser string lies the greater one where a string was
inserted first, and the date where the date was. -/
theorem other_page_in_other_order :
    let n (v : Value) : Row := [("n", v)]
    let strings := [n (.str "2020-01-01T00:00:00Z"), n (.str "2021-01-01T00:00:00Z")]
    let date := n (.date ⟨1672531200, 0⟩)
    let r : CursorRequest :=
      ⟨.map [], "n", .asc, some 1, some (.str "2020-01-01T00:00:00Z"), .next⟩
    let store := Document.Collection.ofList (date :: strings)
    let other := Document.Collection.ofList (strings ++ [date])
    other.docs.Perm store.docs ∧ isNative r.sortField = false ∧
      store.select (documentFilter .default r.filter) = .ok store.docs ∧
      other.select (documentFilter .default r.filter) = .ok other.docs ∧
      (∀ row ∈ store.docs, ((Value.lookup row r.sortField).getD .null).IsFloatFree) ∧
      (store.docs.Pairwise fun a b => ((Value.lookup a r.sortField).getD .null).compare
        ((Value.lookup b r.sortField).getD .null) ≠ .eq) ∧
      (documentsByCursor .default store r).map (·.list) = .ok [date] ∧
      (documentsByCursor .default other r).map (·.list) =
        .ok [n (.str "2021-01-01T00:00:00Z")] := by
  intro n strings date r store other
  exact ⟨@List.perm_append_comm _ strings [date], by decide, rfl, rfl, by decide +kernel,
    by decide +kernel, by decide +kernel, by decide +kernel⟩

end Page

end PagedFilter
