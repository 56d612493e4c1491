import PagedFilter.Proofs.Page.Documents

/-!
How bounded queries of a collection fail. A bound fails only for a key that names no field, or where its
base does, so all bounds on one field fail alike, whatever the values that they bound by.
-/

namespace PagedFilter.Page

open Document

/-! ### Clauses -/

/-- How a clause on a field fails: only for a key that names no field. -/
def clauseOutcome (field : String) : Except StoreError Unit :=
  if isGroupKey field then .error (.unsupported (.groupWithoutList field))
  else if isNative field then .error (.unsupported (.key field))
  else .ok ()

theorem clauseOutcome_of_isNative {field : String} (h : isNative field = true) :
    ∃ e, clauseOutcome field = .error e := by
  rw [clauseOutcome, if_pos h]
  split
  · exact ⟨_, rfl⟩
  · exact ⟨_, rfl⟩

section Clause

variable {op : String} {operand : Value} {test : Option Value → Bool}

/-- An operator that is tested on any value without fault. -/
structure IsTotal (op : String) (operand : Value) (test : Option Value → Bool) : Prop where
  native : isNative op = true
  operator : isGroupKey op = false
  meets : ∀ options value, acceptsOperator options value op operand = .ok (test value)

theorem IsTotal.outcome_eq (h : IsTotal op operand test) (field : String) (doc : Row) :
    outcome (acceptsClauses doc [(field, .map [(op, operand)])]) = clauseOutcome field := by
  rw [clauseOutcome]
  by_cases hgroup : isGroupKey field = true
  · rw [if_pos hgroup, acceptsClauses_eq_allUntil, allUntil_singleton, acceptsClause, if_pos hgroup]
    rfl
  · rw [if_neg hgroup]
    by_cases hnative : isNative field = true
    · rw [if_pos hnative, acceptsClauses_eq_allUntil, allUntil_singleton, acceptsClause,
        if_neg hgroup, if_pos hnative]
      rfl
    · have hfield : isNative field = false := Bool.eq_false_iff.2 hnative
      rw [if_neg hnative, acceptsClauses_single hfield ⟨h.native, h.operator⟩ fun options =>
        h.meets options (Value.lookup doc field)]
      rfl

end Clause

theorem isTotal_bound (side : Side) (v : Value) :
    IsTotal side.symbol v fun value => isOrdered (· == side.ordering) value v := by
  refine ⟨?_, ?_, fun options value => acceptsOperator_bound options value side v⟩
  · cases side <;> decide
  · cases side <;> decide

theorem isTotal_exists : IsTotal "$exists" (.bool true) Option.isSome :=
  ⟨by decide, by decide, acceptsOperator_exists⟩

/-- Total clauses on one field, joined to one base, fail alike. -/
theorem outcome_select_conjoin (store : Collection) (base : Value) (field : String)
    {op other : String} {operand v : Value} {test tests : Option Value → Bool}
    (h : IsTotal op operand test) (ho : IsTotal other v tests) :
    outcome (store.select (conjoin base [(field, .map [(op, operand)])])) =
      outcome (store.select (conjoin base [(field, .map [(other, v)])])) := by
  rw [Collection.select, Collection.select]
  cases store.failure with
  | some reason => rfl
  | none =>
    refine outcome_filterUntilError (fun doc => ?_) store.docs
    have hclause := (h.outcome_eq field doc).trans (ho.outcome_eq field doc).symm
    rw [accepts_conjoin_eq, accepts_conjoin_eq]
    split
    · cases accepts doc base with
      | error e => rfl
      | ok hit =>
        cases hit with
        | true => exact hclause
        | false => rfl
    · exact hclause

/-! ### Queries -/

variable {cfg : Config} {store : Collection}

/-- A clause on a key that names no field fails wherever its base accepts a document. -/
theorem select_eq_error {base : Value} {rows : List Row} (h : store.select base = .ok rows)
    (hne : rows ≠ []) {field op : String} {operand : Value} {test : Option Value → Bool}
    {e : StoreError} (he : clauseOutcome field = .error e) (htotal : IsTotal op operand test) :
    store.select (conjoin base [(field, .map [(op, operand)])]) = .error e := by
  cases rows with
  | nil => exact absurd rfl hne
  | cons row rest =>
    apply outcome_error_iff.1
    rw [select_conjoin_eq h, outcome_filterUntilError_cons, htotal.outcome_eq, he]
    rfl

theorem outcome_find_bound (store : Collection) (base : Value) (field : String) (side : Side)
    (v : Value) (keys : List SortKey) (skip : Nat) (limit : Option Nat) :
    outcome (store.find (documentBound base field side v) keys skip limit) =
      outcome (storesDates store base field) := by
  rw [storesDates, Collection.find, Collection.find, outcome_map, outcome_map, outcome_map]
  exact outcome_select_conjoin store base field (isTotal_bound side v) isTotal_exists

theorem find_conjoin_of_nil {base : Value} (h : store.select base = .ok []) (clause : Fields Value)
    (keys : List SortKey) (skip : Nat) (limit : Option Nat) :
    store.find (conjoin base clause) keys skip limit = .ok [] := by
  rw [Collection.find, select_conjoin_eq h]
  cases limit <;> simp [filterUntilError, Except.map, window, StableSort.sort]

/-- The page of the documents that a filter selects, its edges being those of the request. -/
def pageWithin (cfg : Config) (store : Collection) (q : CursorRequest) (filter : Value) :
    Except StoreError CursorPage := do
  let fetched ← store.find filter [(q.sortField, q.fetchDirection)] 0
    (some (cfg.resolveLimit q.limit).toNat)
  let total ← store.count (documentFilter cfg q.filter)
  pageOf q q.sortField (inOrder q fetched) total
    (documentProbe store (documentFilter cfg q.filter) q.sortField)

theorem documentsByCursor_eq_pageWithin (cfg : Config) (store : Collection) (q : CursorRequest) :
    documentsByCursor cfg store q =
      (documentList cfg store (documentFilter cfg q.filter) q >>= pageWithin cfg store q) := rfl

theorem documentsByCursor_of_documentCursor {q : CursorRequest} {c v : Value}
    (h : documentCursor cfg store (documentFilter cfg q.filter) q.sortField c = .ok v) :
    documentsByCursor cfg store { q with cursor := some c } =
      pageWithin cfg store q (documentBound (documentFilter cfg q.filter) q.sortField
        (Side.ofCursor q.direction q.towards) v) := by
  rw [documentsByCursor_eq_pageWithin, documentList]
  simp only [h]
  rfl

/-- Where a filter selects nothing no cursor changes the page. -/
theorem documentsByCursor_of_no_rows {q : CursorRequest}
    (h : store.select (documentFilter cfg q.filter) = .ok []) :
    documentsByCursor cfg store q = .ok ⟨[], 0, ⟨q.sortField, q.direction⟩, none, none⟩ := by
  have hpage : ∀ filter, store.find filter [(q.sortField, q.fetchDirection)] 0
      (some (cfg.resolveLimit q.limit).toNat) = .ok [] → pageWithin cfg store q filter =
        .ok ⟨[], 0, ⟨q.sortField, q.direction⟩, none, none⟩ := by
    intro filter hfind
    have hlist : inOrder q [] = [] := by
      rw [inOrder]
      cases q.towards <;> rfl
    rw [pageWithin, hfind, count_of_select h]
    show pageOf q q.sortField (inOrder q []) 0 _ = _
    rw [hlist]
    rfl
  cases hcursor : q.cursor with
  | none =>
    rw [documentsByCursor_eq_pageWithin, documentList, hcursor]
    apply hpage
    rw [find_sorted h]
    simp [View.sort, StableSort.sort]
  | some c =>
    have hdates : storesDates store (documentFilter cfg q.filter) q.sortField = .ok false := by
      rw [storesDates, find_conjoin_of_nil h]
      rfl
    have hread : documentCursor cfg store (documentFilter cfg q.filter) q.sortField c = .ok c := by
      rw [documentCursor, hdates]
      split <;> rfl
    rw [documentsByCursor_eq_pageWithin, documentList, hcursor]
    simp only [hread]
    exact hpage _ (find_conjoin_of_nil h _ _ _ _)

/-- Past which value a page lies is of no consequence where there is nothing to show. -/
theorem pageWithin_of_no_rows (q : CursorRequest) (side : Side) (v w : Value)
    (h : ∀ rows, store.select (documentFilter cfg q.filter) = .ok rows → rows = []) :
    pageWithin cfg store q (documentBound (documentFilter cfg q.filter) q.sortField side v) =
      pageWithin cfg store q (documentBound (documentFilter cfg q.filter) q.sortField side w) := by
  apply bind_congr_of_outcome
  · exact (outcome_find_bound _ _ _ _ _ _ _ _).trans (outcome_find_bound _ _ _ _ _ _ _ _).symm
  · intro fetched others hfetched hothers
    cases hselect : store.select (documentFilter cfg q.filter) with
    | error e =>
      have hcount : store.count (documentFilter cfg q.filter) = .error e := by
        rw [Collection.count, hselect]
        rfl
      rw [hcount]
      rfl
    | ok rows =>
      rw [h rows hselect] at hselect
      rw [documentBound, find_conjoin_of_nil hselect, Except.ok.injEq] at hfetched hothers
      rw [← hfetched, ← hothers]

/-! ### Keys that name no field -/

section Native

variable {base : Value} {field : String} {e : StoreError} {rows : List Row}

theorem storesDates_of_clauseOutcome (he : clauseOutcome field = .error e) (h : store.select base = .ok rows)
    (hne : rows ≠ []) : storesDates store base field = .error e := by
  rw [storesDates, Collection.find, select_eq_error h hne he isTotal_exists]
  rfl

theorem documentProbe_of_clauseOutcome (he : clauseOutcome field = .error e)
    (h : store.select base = .ok rows) (hne : rows ≠ []) (side : Side) (v : Value) :
    documentProbe store base field side v = .error e := by
  rw [documentProbe, documentBound, Collection.find,
    select_eq_error h hne he (isTotal_bound side v)]
  rfl

/-- Past any cursor there is no page, whichever way the cursor is read. -/
theorem documentsByCursor_of_clauseOutcome {q : CursorRequest} {c : Value} (hcursor : q.cursor = some c)
    (he : clauseOutcome q.sortField = .error e)
    (h : store.select (documentFilter cfg q.filter) = .ok rows) (hne : rows ≠ []) :
    documentsByCursor cfg store q = .error e := by
  have hfind : ∀ v, store.find (documentBound (documentFilter cfg q.filter) q.sortField
      (Side.ofCursor q.direction q.towards) v) [(q.sortField, q.fetchDirection)] 0
      (some (cfg.resolveLimit q.limit).toNat) = .error e := by
    intro v
    rw [documentBound, Collection.find,
      select_eq_error h hne he (isTotal_bound _ v)]
    rfl
  have hread : documentCursor cfg store (documentFilter cfg q.filter) q.sortField c = .ok c ∨
      documentCursor cfg store (documentFilter cfg q.filter) q.sortField c = .error e := by
    rw [documentCursor, storesDates_of_clauseOutcome he h hne]
    split
    · exact .inl rfl
    · exact .inr rfl
  rw [documentsByCursor_eq_pageWithin, documentList, hcursor]
  rcases hread with hread | hread
  · simp only [hread]
    show pageWithin cfg store q _ = _
    rw [pageWithin, hfind]
    rfl
  · simp only [hread]
    rfl

end Native

end PagedFilter.Page
