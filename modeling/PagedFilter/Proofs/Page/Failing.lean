import PagedFilter.Proofs.Page.Insertion

/-!
When a page of documents fails: exactly when counting the documents that its filter selects does, and
with the same error. The sample of dates, the bounded query and the probes test the filter of the page
before their own clause, so they stop at the same document and the same operator as the count. A filter
that is no map drops out of them; then it is the count that reports it.
-/

namespace PagedFilter

namespace Page

open Document

/-! ### Bounded filters -/

theorem clauseOutcome_of_not_isNative {field : String} (h : isNative field = false) :
    clauseOutcome field = .ok () := by
  rw [clauseOutcome, isGroupKey_of_not_isNative h, h]
  rfl

section Clause

variable {field op : String} {operand : Value} {test : Option Value → Bool}
  (hf : isNative field = false) (ht : IsTotal op operand test)
include hf ht

/-- A clause on a field joined to a base fails on a document as the base does, and on none if the base
is no map. -/
theorem outcome_accepts_conjoin (base : Value) (doc : Row) :
    outcome (accepts doc (conjoin base [(field, .map [(op, operand)])])) =
      if base.isMap then outcome (accepts doc base) else .ok () := by
  have hclause : outcome (acceptsClauses doc [(field, .map [(op, operand)])]) = .ok () :=
    (ht.outcome_eq field doc).trans (clauseOutcome_of_not_isNative hf)
  rw [accepts_conjoin_eq]
  split
  · cases accepts doc base with
    | error e => rfl
    | ok hit =>
      cases hit with
      | true => exact hclause
      | false => rfl
  · exact hclause

theorem outcome_select_conjoin_of_isMap {base : Value} (hmap : base.isMap = true)
    (store : Collection) :
    outcome (store.select (conjoin base [(field, .map [(op, operand)])])) =
      outcome (store.select base) := by
  rw [Collection.select, Collection.select]
  cases store.failure with
  | some reason => rfl
  | none =>
    refine outcome_filterUntilError (fun doc => ?_) store.docs
    rw [outcome_accepts_conjoin hf ht, if_pos hmap]

/-- Without a base to test, only a collection that is set to fail does. -/
theorem outcome_select_conjoin_of_not_isMap {base : Value} (hmap : base.isMap = false)
    (store : Collection) :
    outcome (store.select (conjoin base [(field, .map [(op, operand)])])) =
      outcome (store.select .emptyMap) := by
  rw [Collection.select, Collection.select]
  cases store.failure with
  | some reason => rfl
  | none =>
    refine outcome_filterUntilError (fun doc => ?_) store.docs
    rw [outcome_accepts_conjoin hf ht, hmap, accepts_emptyMap]
    rfl

end Clause

theorem select_emptyMap_eq_error {store : Collection} {e : StoreError}
    (h : store.select .emptyMap = .error e) (filter : Value) : store.select filter = .error e := by
  rw [Collection.select] at h ⊢
  cases hfailure : store.failure with
  | some reason =>
    simp only [hfailure] at h ⊢
    rw [Except.error.injEq] at h
    rw [h]
  | none =>
    simp only [hfailure] at h
    rw [filterUntilError_of_tests fun doc _ => accepts_emptyMap doc] at h
    cases h

/-! ### Queries -/

/-- A query on top of a base raises no error but that of counting the base, and hides none of a base
that is a map. -/
structure FailsWith (store : Collection) (base : Value) {α : Type} (query : Except StoreError α) :
    Prop where
  raised : ∀ e, query = .error e → store.count base = .error e
  shown : base.isMap = true → ∀ e, store.count base = .error e → query = .error e

section FailsWith

variable {store : Collection} {base : Value} {α : Type} {query : Except StoreError α}

theorem outcome_count (store : Collection) (base : Value) :
    outcome (store.count base) = outcome (store.select base) := outcome_map _ _

theorem FailsWith.of_outcome (h : outcome query = outcome (store.select base)) :
    FailsWith store base query := by
  rw [← outcome_count] at h
  constructor
  · intro e he
    rw [← outcome_error_iff, ← h, outcome_error_iff, he]
  · intro _ e he
    rw [← outcome_error_iff, h, outcome_error_iff, he]

theorem FailsWith.find (store : Collection) (base : Value) (keys : List SortKey) (skip : Nat)
    (limit : Option Nat) : FailsWith store base (store.find base keys skip limit) :=
  .of_outcome (outcome_map _ _)

/-- Asking for one more field makes no error and hides none. -/
theorem FailsWith.conjoin {field op : String} {operand : Value} {test : Option Value → Bool}
    (hf : isNative field = false) (ht : IsTotal op operand test)
    (h : outcome query = outcome (store.select (conjoin base [(field, .map [(op, operand)])]))) :
    FailsWith store base query := by
  cases hmap : base.isMap with
  | true => exact .of_outcome (h.trans (outcome_select_conjoin_of_isMap hf ht hmap store))
  | false =>
    rw [outcome_select_conjoin_of_not_isMap hf ht hmap] at h
    refine ⟨fun e he => ?_, fun hmap' => absurd (hmap.symm.trans hmap') (by decide)⟩
    rw [← outcome_error_iff, h, outcome_error_iff] at he
    rw [← outcome_error_iff, outcome_count, outcome_error_iff]
    exact select_emptyMap_eq_error he base

variable {field : String} (hf : isNative field = false)
include hf

theorem FailsWith.storesDates (store : Collection) (base : Value) :
    FailsWith store base (storesDates store base field) := by
  refine .conjoin hf isTotal_exists ?_
  rw [Page.storesDates, Collection.find, outcome_map, outcome_map]

theorem FailsWith.bound (store : Collection) (base : Value) (side : Side) (v : Value)
    (keys : List SortKey) (skip : Nat) (limit : Option Nat) :
    FailsWith store base (store.find (documentBound base field side v) keys skip limit) :=
  .conjoin hf (isTotal_bound side v) (outcome_map _ _)

theorem FailsWith.probe (store : Collection) (base : Value) (side : Side) (v : Value) :
    FailsWith store base (documentProbe store base field side v) := by
  refine .conjoin hf (isTotal_bound side v) ?_
  rw [documentProbe, Collection.find, outcome_map, outcome_map]
  rfl

end FailsWith

/-! ### Pages -/

section Pages

variable {cfg : Config} {store : Collection} {r : CursorRequest}
  (hf : isNative r.sortField = false)
include hf

theorem FailsWith.documentCursor (base c : Value) {e : StoreError}
    (h : documentCursor cfg store base r.sortField c = .error e) : store.count base = .error e := by
  rw [Page.documentCursor] at h
  split at h
  · cases h
  · rw [← outcome_error_iff, outcome_map, outcome_error_iff] at h
    exact (FailsWith.storesDates hf store base).raised e h

theorem FailsWith.documentList {base : Value} {e : StoreError}
    (h : documentList cfg store base r = .error e) : store.count base = .error e := by
  rw [Page.documentList] at h
  split at h
  · cases h
  · rw [← outcome_error_iff, outcome_map, outcome_error_iff] at h
    exact FailsWith.documentCursor hf base _ h

/-- The query for the rows of a page, past a cursor or without one. -/
theorem FailsWith.list {base filter : Value} (h : Page.documentList cfg store base r = .ok filter)
    (keys : List SortKey) (skip : Nat) (limit : Option Nat) :
    FailsWith store base (store.find filter keys skip limit) := by
  rw [Page.documentList] at h
  split at h
  · rw [Except.ok.injEq] at h
    rw [← h]
    exact .find store base keys skip limit
  · obtain ⟨v, _, hv⟩ := exists_of_map_eq_ok h
    rw [← hv]
    exact .bound hf store base _ v keys skip limit

/-- Where the count fails the page does, at the latest when it asks for the count. -/
theorem documentsByCursor_of_count {e : StoreError}
    (h : store.count (documentFilter cfg r.filter) = .error e) :
    documentsByCursor cfg store r = .error e := by
  rw [documentsByCursor_eq_pageWithin]
  cases hlist : Page.documentList cfg store (documentFilter cfg r.filter) r with
  | error d =>
    cases h.symm.trans (FailsWith.documentList hf hlist)
    rfl
  | ok filter =>
    show pageWithin cfg store r filter = .error e
    rw [pageWithin]
    cases hfind : store.find filter [(r.sortField, r.fetchDirection)] 0
        (some (cfg.resolveLimit r.limit).toNat) with
    | error d =>
      cases h.symm.trans ((FailsWith.list hf hlist _ _ _).raised d hfind)
      rfl
    | ok fetched =>
      rw [h]
      rfl

end Pages

/-- A page of documents by cursor fails exactly if counting the documents of its filter does, with the
same error. None of its other queries, the sample of dates, the bounded list and the probes, raises an
error of its own, and none hides one: those of a filter that is a map fail whenever the count does. -/
theorem cursor_page_fails_as_count (cfg : Config) (store : Collection) (r : CursorRequest)
    (hf : isNative r.sortField = false) :
    let base := documentFilter cfg r.filter
    (∀ e, documentsByCursor cfg store r = .error e ↔ store.count base = .error e) ∧
      FailsWith store base (storesDates store base r.sortField) ∧
      (∀ filter, documentList cfg store base r = .ok filter → ∀ keys skip limit,
        FailsWith store base (store.find filter keys skip limit)) ∧
      ∀ side v, FailsWith store base (documentProbe store base r.sortField side v) := by
  intro base
  refine ⟨fun e => ⟨fun h => ?_, documentsByCursor_of_count hf⟩, .storesDates hf store base,
    fun filter hlist => FailsWith.list hf hlist, FailsWith.probe hf store base⟩
  cases hselect : store.select base with
  | error d =>
    have hcount : store.count base = .error d :=
      outcome_error_iff.1 ((outcome_count store base).trans (outcome_error_iff.2 hselect))
    cases h.symm.trans (documentsByCursor_of_count hf hcount)
    exact hcount
  | ok rows =>
    rw [documentsByCursor_eq_page_read hf hselect] at h
    cases h

/-- A filter whose second member cannot be evaluated, past a date-time string: the page fails where the
first member accepts a document. -/
theorem page_of_unknown_operator :
    let raw : Value :=
      .map [("and", .list [.map [("a", .int 1)], .map [("b", .map [("between", .int 2)])]])]
    let r : CursorRequest := ⟨raw, "at", .desc, some 1, some (.str "2023-01-01T00:00:00Z"), .previous⟩
    let doc (a : Int64) : Row := [("a", .int a), ("at", .date ⟨0, 0⟩)]
    isNative r.sortField = false ∧
      documentsByCursor .default (.ofList [doc 0, doc 1]) r = .error (.unsupported (.key "$between")) ∧
      ∃ page, documentsByCursor .default (.ofList [doc 0, doc 2]) r = .ok page := by
  intro raw r doc
  have hf : isNative r.sortField = false := by decide
  have hreached := cursor_page_fails_as_count .default (.ofList [doc 0, doc 1]) r hf
  refine ⟨hf, (hreached.1 _).2 (by decide +kernel), ?_⟩
  have hunreached := cursor_page_fails_as_count .default (.ofList [doc 0, doc 2]) r hf
  cases hpage : documentsByCursor .default (.ofList [doc 0, doc 2]) r with
  | ok page => exact ⟨page, rfl⟩
  | error e =>
    have hcount := (hunreached.1 e).1 hpage
    have hok : (Collection.ofList [doc 0, doc 2]).count (documentFilter .default r.filter) = .ok 0 := by
      decide +kernel
    rw [hok] at hcount
    cases hcount

end Page

end PagedFilter
