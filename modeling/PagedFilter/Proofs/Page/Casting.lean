import PagedFilter.Proofs.Document.Casting
import PagedFilter.Proofs.Page.Insertion
import PagedFilter.Proofs.Page.Offset

/-!
Pages of a filter that works as long as date-times in it are not read. Reading them breaks it in two
ways: a pattern that reads as a date-time is no pattern any more, and a clause that now decides
otherwise may let the store reach a part that it never could evaluate. A filter without either keeps
working, and so do its pages.
-/

namespace PagedFilter.Page

open Document

section Collection

variable {store : Collection}

theorem exists_select_of_count {filter : Value} {n : Nat} (h : store.count filter = .ok n) :
    ∃ rows, store.select filter = .ok rows := by
  obtain ⟨rows, hrows, _⟩ := exists_of_map_eq_ok h
  exact ⟨rows, hrows⟩

theorem failure_of_select {filter : Value} {rows : List Row} (h : store.select filter = .ok rows) :
    store.failure = none := by
  rw [Collection.select] at h
  cases hfailure : store.failure with
  | none => rfl
  | some reason =>
    rw [hfailure] at h
    cases h

/-- What a filter with date-times fails with was a fault before, or comes of a pattern that reads as a
date-time. -/
theorem exists_part_of_castDates (hstore : store.failure = none) {filter : Value} {e : StoreError}
    (h : store.count (Filter.castDates filter) = .error e) :
    ∃ p ∈ parts filter, p.castDates.fault? = some e ∧
      (p.isDatedPattern = true ∧ e = .unsupported .patternType ∨ ∃ d, p.fault? = some d) := by
  obtain ⟨q, hq, hfault⟩ := isFaultOf_select hstore (error_of_map_eq_error h)
  rw [parts_castDates] at hq
  obtain ⟨p, hp, rfl⟩ := List.mem_map.1 hq
  refine ⟨p, hp, hfault, ?_⟩
  cases hdated : p.isDatedPattern with
  | true =>
    rw [Part.fault?_castDates_of_isDatedPattern hdated, Option.some.injEq] at hfault
    exact .inl ⟨rfl, hfault.symm⟩
  | false => exact .inr (Part.exists_fault_of_castDates hdated hfault)

end Collection

/-- A filter that can be counted as it is written fails with date-times only by a pattern that reads as
one, or by a part that was a fault before and had not been reached. Without such parts it can still be
counted. With either setting its pages are then made: all pages by offset, and by cursor those whose
sort field is no native key. -/
theorem date_cast_fails_on_patterns_and_faults (store : Collection) (raw : Value) {n : Nat}
    (hcount : store.count (compile (Filter.normalize raw)) = .ok n) :
    let filter := compile (Filter.normalize raw)
    (∀ e, store.count (Filter.castDates filter) = .error e →
      ∃ p ∈ parts filter, p.castDates.fault? = some e ∧
        (p.isDatedPattern = true ∧ e = .unsupported .patternType ∨ ∃ d, p.fault? = some d)) ∧
      ((∀ p ∈ parts filter, p.fault? = none ∧ p.isDatedPattern = false) →
        ∃ m, store.count (Filter.castDates filter) = .ok m) ∧
      ∀ m, store.count (Filter.castDates filter) = .ok m → ∀ cfg : Config,
        (∀ r : OffsetRequest, r.filter = raw → ∃ page, documentsByOffset cfg store r = .ok page) ∧
          ∀ r : CursorRequest, r.filter = raw → isNative r.sortField = false →
            ∃ page, documentsByCursor cfg store r = .ok page := by
  intro filter
  obtain ⟨found, hfound⟩ := exists_select_of_count hcount
  have hstore := failure_of_select hfound
  have hfails : ∀ e, store.count (Filter.castDates filter) = .error e →
      ∃ p ∈ parts filter, p.castDates.fault? = some e ∧
        (p.isDatedPattern = true ∧ e = .unsupported .patternType ∨ ∃ d, p.fault? = some d) :=
    fun e => exists_part_of_castDates hstore
  refine ⟨hfails, fun hparts => ?_, fun m hcast cfg => ?_⟩
  · cases hcast : store.count (Filter.castDates filter) with
    | ok m => exact ⟨m, rfl⟩
    | error e =>
      obtain ⟨p, hp, _, ⟨hdated, _⟩ | ⟨d, hd⟩⟩ := hfails e hcast
      · exact absurd hdated (Bool.eq_false_iff.1 (hparts p hp).2)
      · rw [(hparts p hp).1] at hd
        cases hd
  · have hselect : ∃ rows, store.select (documentFilter cfg raw) = .ok rows := by
      rw [documentFilter]
      split
      · exact exists_select_of_count hcast
      · exact ⟨found, hfound⟩
    obtain ⟨rows, hrows⟩ := hselect
    constructor
    · rintro r rfl
      have hpage : (Source.documents store).byOffset cfg r = .ok _ :=
        Source.byOffset_eq_assemble trivial hrows
      exact ⟨_, hpage⟩
    · rintro r rfl hfield
      exact ⟨_, documentsByCursor_eq_page_read hfield hrows⟩

/-- A filter by date and by name. -/
theorem pages_of_recent_names :
    let raw : Value := .map [("at", .map [("gte", .str "2024-01-15T08:30:00Z")]),
      ("name", .map [("options", .str "m"), ("regex", .str "^b")])]
    let store := Collection.ofList
      [[("at", .date ⟨1705307400, 0⟩), ("name", .str "Bo")], [("at", .str "2025"), ("name", .str "Al")]]
    let filter := compile (Filter.normalize raw)
    store.count filter = .ok 0 ∧ (∀ p ∈ parts filter, p.fault? = none ∧ p.isDatedPattern = false) ∧
      (∃ m, store.count (Filter.castDates filter) = .ok m) ∧
        ∃ page, documentsByCursor .default store ⟨raw, "at", .desc, none, none, .next⟩ = .ok page := by
  intro raw store filter
  have hcount : store.count filter = .ok 0 := by decide +kernel
  have hparts : ∀ p ∈ parts filter, p.fault? = none ∧ p.isDatedPattern = false := by decide +kernel
  obtain ⟨_, hcast, hpages⟩ := date_cast_fails_on_patterns_and_faults store raw hcount
  obtain ⟨m, hm⟩ := hcast hparts
  exact ⟨hcount, hparts, ⟨m, hm⟩, (hpages m hm .default).2 _ rfl (by decide)⟩

/-- Filters that work until date-times are read: a pattern that is one, a date-time in front of an
operator that documents do not know, and one that selects a document whose sort field no page can be
bounded by. -/
theorem date_cast_breaks_working_filters :
    let date := "2024-01-15T08:30:00Z"
    let dated : Row := [("$n", .int 1), ("at", .date ⟨1705307400, 0⟩)]
    let count (doc : Row) (filter : Value) := (Collection.ofList [doc]).count filter
    let pattern := compile (Filter.normalize (.map [("a", .map [("regex", .str date)])]))
    let unknown := compile (Filter.normalize
      (.map [("at", .str date), ("name", .map [("text", .str "x")])]))
    let at_ : Value := .map [("at", .str date)]
    let page (cast : Bool) := documentsByCursor { Config.default with castDates := cast }
      (.ofList [dated]) ⟨at_, "$n", .asc, none, none, .next⟩
    (count [("a", .int 1)] pattern = .ok 0 ∧
        count [("a", .int 1)] (Filter.castDates pattern) = .error (.unsupported .patternType)) ∧
      (count dated unknown = .ok 0 ∧
        count dated (Filter.castDates unknown) = .error (.unsupported (.key "$text"))) ∧
      page false = .ok ⟨[], 0, ⟨"$n", .asc⟩, none, none⟩ ∧
        page true = .error (.unsupported (.key "$n")) := by
  decide +kernel

end PagedFilter.Page
