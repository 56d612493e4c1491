import PagedFilter.Proofs.Calendar.Text
import PagedFilter.Proofs.Page.Decoding
import PagedFilter.Proofs.Page.Outcomes

/-!
Date cursors that come back as text. Where the documents that a filter accepts hold dates under the sort
field, the text of a date bounds as the date that it is read as, and for a whole millisecond this is the
date that was written.
-/

namespace PagedFilter.Page

open Document

/-! ### Reading a cursor that is the text of a date -/

section Read

variable {cfg : Config} {store : Collection}

/-- Where the documents of the base hold dates, dates are found, unless there are no documents. -/
theorem storesDates_of_dates {base : Value} {field : String} {rows : List Row}
    (h : store.select base = .ok rows)
    (hdates : ∀ row ∈ rows, ∃ t, Value.lookup row field = some (.date t)) {found : Bool}
    (hfound : storesDates store base field = .ok found) : found = true ∨ rows = [] := by
  cases rows with
  | nil => exact .inr rfl
  | cons row rest =>
    refine .inl ?_
    obtain ⟨t, ht⟩ := hdates row List.mem_cons_self
    by_cases hf : isNative field = false
    · rw [storesDates_eq_ok hf h, firstHoldsDate, List.findSome?_cons, ht, Except.ok.injEq] at hfound
      exact hfound.symm
    · obtain ⟨e, he⟩ := clauseOutcome_of_isNative (Bool.not_eq_false _ ▸ hf)
      rw [storesDates_of_clauseOutcome he h (List.cons_ne_nil row rest)] at hfound
      simp at hfound

/-- A string that reads as a date bounds as that date, whatever else comes of the request. -/
theorem documentsByCursor_of_read? {q : CursorRequest} (hcast : cfg.castDates = true) {s : String}
    {t : Instant} (hread : Instant.read? s = some t) (hcursor : q.cursor = some (.str s))
    (hdates : ∀ rows, store.select (documentFilter cfg q.filter) = .ok rows →
      ∀ row ∈ rows, ∃ d, Value.lookup row q.sortField = some (.date d)) :
    documentsByCursor cfg store q =
      documentsByCursor cfg store { q with cursor := some (.date t) } := by
  have hstr : documentCursor cfg store (documentFilter cfg q.filter) q.sortField (.str s) =
      (storesDates store (documentFilter cfg q.filter) q.sortField).map
        fun dates => if dates then .date t else .str s := by
    rw [documentCursor, Filter.castDates, hread, hcast]
    rfl
  have hdate : documentCursor cfg store (documentFilter cfg q.filter) q.sortField (.date t) =
      .ok (.date t) := by
    have hsame : Filter.castDates (.date t) = .date t := rfl
    have hstrict : Value.strictEq (.date t) (.date t) = true := by simp [Value.strictEq]
    rw [documentCursor, hsame, hstrict, Bool.or_true]
    rfl
  rw [documentsByCursor_of_documentCursor hdate, documentsByCursor_eq_pageWithin, documentList, hcursor]
  simp only [hstr]
  cases hfound : storesDates store (documentFilter cfg q.filter) q.sortField with
  | error e =>
    have hfind := outcome_find_bound store (documentFilter cfg q.filter) q.sortField
      (Side.ofCursor q.direction q.towards) (.date t) [(q.sortField, q.fetchDirection)] 0
      (some (cfg.resolveLimit q.limit).toNat)
    rw [hfound] at hfind
    rw [pageWithin, outcome_error_iff.1 hfind]
    rfl
  | ok found =>
    cases found with
    | true => rfl
    | false =>
      apply pageWithin_of_no_rows
      intro rows hrows
      have hnone := storesDates_of_dates hrows (hdates rows hrows) hfound
      exact hnone.resolve_left Bool.false_ne_true

end Read

/-! ### Echoing a cursor -/

/-- Every document that the filter of a request accepts holds a date under its sort field. -/
def HoldsDates (cfg : Config) (store : Collection) (q : CursorRequest) : Prop :=
  ∀ doc ∈ store.docs, accepts doc (documentFilter cfg q.filter) = .ok true →
    ∃ t, Value.lookup doc q.sortField = some (.date t)

theorem HoldsDates.of_select {cfg : Config} {store : Collection} {q : CursorRequest}
    (h : HoldsDates cfg store q) {rows : List Row}
    (hrows : store.select (documentFilter cfg q.filter) = .ok rows) :
    ∀ row ∈ rows, ∃ t, Value.lookup row q.sortField = some (.date t) := by
  intro row hrow
  rw [Collection.select] at hrows
  cases hf : store.failure with
  | some reason => simp [hf] at hrows
  | none =>
    simp only [hf] at hrows
    obtain ⟨hmem, haccepts⟩ := mem_of_filterUntilError hrows hrow
    exact h row hmem haccepts

/-- A date cursor comes back from a page as a text, and the request that names this text is answered
as one with the date itself would be: with the same page, or the same error. -/
theorem echoed_date_makes_same_page (cfg : Config) (hcast : cfg.castDates = true)
    (store : Collection) {d : Instant} (hd : d.IsShown) (hmillis : d.IsMillis) {p : CursorPage}
    {edge : String}
    (hp : (edge, some (.date d)) ∈ [("next", p.next), ("previous", p.previous)]) :
    p.toJson.member? edge = some (.str d.text) ∧
    (∀ r : CursorRequest, r.cursor = some (.date d) → ∃ q,
      CursorRequest.decode { r with cursor := some (.str d.text) }.toJson = .ok q ∧
        q = { r with filter := Value.ofJson r.filter.toJson, cursor := some (.str d.text) } ∧
        (HoldsDates cfg store q → documentsByCursor cfg store q =
          documentsByCursor cfg store { r with filter := Value.ofJson r.filter.toJson })) ∧
    ∀ (text : String) (j : Json) (q : CursorRequest), Json.read? Json.depthLimit text = some j →
      j.member? "cursor" = p.toJson.member? edge →
      Json.decodeText CursorRequest.decode text = .ok q → HoldsDates cfg store q →
        documentsByCursor cfg store q =
            documentsByCursor cfg store { q with cursor := some (.date d) } ∧
          ∀ rows, isNative q.sortField = false →
            store.select (documentFilter cfg q.filter) = .ok rows →
              documentsByCursor cfg store q = .ok (((Source.documents store).view q.sortField).page
                { q with cursor := some (.date d) } (cfg.resolveLimit q.limit).toNat rows) := by
  have hread := Instant.read?_text_of_isMillis hd hmillis
  have hcarried : p.toJson.member? edge = some (.str d.text) := by
    rcases List.mem_cons.1 hp with hnext | hprevious
    · have hmember : p.toJson.member? "next" = some (optionJson p.next) := rfl
      obtain ⟨hedge, hvalue⟩ := Prod.mk.inj hnext
      rw [hedge, hmember, ← hvalue]
      rfl
    · have hmember : p.toJson.member? "previous" = some (optionJson p.previous) := rfl
      obtain ⟨hedge, hvalue⟩ := Prod.mk.inj (List.mem_singleton.1 hprevious)
      rw [hedge, hmember, ← hvalue]
      rfl
  have hsame : ∀ q : CursorRequest, q.cursor = some (.str d.text) → HoldsDates cfg store q →
      documentsByCursor cfg store q =
        documentsByCursor cfg store { q with cursor := some (.date d) } := by
    intro q hcursor hdates
    exact documentsByCursor_of_read? hcast hread hcursor fun rows hrows => hdates.of_select hrows
  refine ⟨hcarried, ?_, ?_⟩
  · intro r hr
    refine ⟨_, decode_toJson { r with cursor := some (.str d.text) } rfl, rfl, ?_⟩
    intro hdates
    rw [hsame _ rfl hdates, ← hr]
  · intro text j q hj hmember hdecode hdates
    obtain ⟨i, hi, hq⟩ := Json.decode_of_decodeText hdecode
    obtain rfl := Option.some.inj (hj.symm.trans hi)
    have hcursor := cursor_of_decode hq (hmember.trans hcarried)
    have hpage := hsame q hcursor hdates
    refine ⟨hpage, ?_⟩
    intro rows hf hrows
    rw [hpage]
    apply documentsByCursor_eq_page (r := { q with cursor := some (.date d) }) hf hrows
    intro c hc
    rw [← Option.some.inj hc]
    exact documentCursor_of_castDates cfg hf hrows rfl

theorem date_echoed_between_two :
    let row (t : Instant) : Row := [("at", .date t)]
    let store := Collection.ofList
      [row ⟨1704103201, 0⟩, row ⟨1704103200, 123000000⟩, row ⟨1704103200, 0⟩]
    let p : CursorPage := ⟨[row ⟨1704103200, 0⟩, row ⟨1704103200, 123000000⟩], 3, ⟨"at", .asc⟩,
      some (.date ⟨1704103200, 123000000⟩), none⟩
    let text := "\x7b\"filter\":\x7b\x7d,\"sortField\":\"at\",\"limit\":2," ++
      "\"cursor\":\"2024-01-01T10:00:00.123Z\"\x7d"
    documentsByCursor .default store ⟨.emptyMap, "at", .asc, some 2, none, .next⟩ = .ok p ∧
      ∃ q page, Json.decodeText CursorRequest.decode text = .ok q ∧
        documentsByCursor .default store q = .ok page ∧ page.list = [row ⟨1704103201, 0⟩] := by
  intro row store p text
  have hd : Instant.IsShown ⟨1704103200, 123000000⟩ := ⟨by decide, by decide, by decide⟩
  have hp : ("next", some (.date ⟨1704103200, 123000000⟩)) ∈
      [("next", p.next), ("previous", p.previous)] := List.mem_cons_self
  obtain ⟨hcarried, _, hecho⟩ := echoed_date_makes_same_page .default rfl store hd (by decide) hp
  let q : CursorRequest := ⟨.emptyMap, "at", .asc, some 2, some (.str "2024-01-01T10:00:00.123Z"),
    .next⟩
  have hdecode : Json.decodeText CursorRequest.decode text = .ok q :=
    eq_ok_of_toOption (by decide +kernel)
  obtain ⟨j, hread, _⟩ := Json.decode_of_decodeText hdecode
  have hmember : j.member? "cursor" = p.toJson.member? "next" := by
    have hstring : (((Json.read? Json.depthLimit text).bind (Json.member? "cursor")).bind
        fun c => (Json.string c).toOption) = some "2024-01-01T10:00:00.123Z" := by decide +kernel
    rw [hread, Option.bind_some] at hstring
    obtain ⟨c, hc, hstring⟩ := Option.bind_eq_some_iff.1 hstring
    have htext : Instant.text ⟨1704103200, 123000000⟩ = "2024-01-01T10:00:00.123Z" := by
      decide +kernel
    rw [hcarried, hc, Json.eq_str_of_string (eq_ok_of_toOption hstring), htext]
  have hdates : HoldsDates .default store q := by
    intro doc hdoc _
    rcases List.mem_cons.1 hdoc with rfl | hdoc
    · exact ⟨_, rfl⟩
    · rcases List.mem_cons.1 hdoc with rfl | hdoc
      · exact ⟨_, rfl⟩
      · rw [List.mem_singleton.1 hdoc]
        exact ⟨_, rfl⟩
  obtain ⟨hsame, _⟩ := hecho text j q hread hmember hdecode hdates
  obtain ⟨page, hpage, hlist⟩ : ∃ page, documentsByCursor .default store
      { q with cursor := some (.date ⟨1704103200, 123000000⟩) } = .ok page ∧
        page.list = [row ⟨1704103201, 0⟩] :=
    ⟨⟨[row ⟨1704103201, 0⟩], 3, ⟨"at", .asc⟩, none, some (.date ⟨1704103201, 0⟩)⟩,
      by decide +kernel, rfl⟩
  exact ⟨by decide +kernel, q, page, hdecode, hsame.trans hpage, hlist⟩

end PagedFilter.Page
