import PagedFilter.Proofs.Document.Matching
import PagedFilter.Proofs.Page.Source

/-!
A page of a collection: where the filter of a request selects rows without error, the bounded query
and the probes succeed, and the page is made of those rows alone.
-/

namespace PagedFilter

namespace Page

open Document

/-! ### Filters -/

/-- A clause is tested where its base accepts, and everywhere if the base is no filter. -/
theorem accepts_conjoin_eq (base : Value) (clause : Fields Value) (doc : Row) :
    accepts doc (conjoin base clause) =
      if base.isMap then
        accepts doc base >>= fun hit => if hit then acceptsClauses doc clause else .ok false
      else acceptsClauses doc clause := by
  cases base with
  | map fields =>
    have hmap : (Value.map fields).isMap = true := rfl
    rw [if_pos hmap]
    cases fields with
    | nil => rfl
    | cons e rest =>
      have hgroup := acceptsClause_group .and doc [.map (e :: rest), .map clause]
      rw [Logical.symbol] at hgroup
      simp only [acceptsAll_eq_allUntil] at hgroup
      rw [conjoin, accepts, acceptsClauses_eq_allUntil]
      · rw [allUntil_singleton, hgroup, allUntil]
        simp only [allUntil_singleton]
        rfl
      · simp
  | _ => rfl

theorem acceptsClauses_single {field op : String} (hf : isNative field = false)
    (hop : isNative op = true ∧ isGroupKey op = false) {operand : Value} {doc : Row} {hit : Bool}
    (h : ∀ options, acceptsOperator options (Value.lookup doc field) op operand = .ok hit) :
    acceptsClauses doc [(field, .map [(op, operand)])] = .ok hit := by
  rw [acceptsClauses_eq_allUntil, allUntil_singleton]
  exact acceptsClause_single hf hop h

theorem acceptsOperator_bound (options value : Option Value) (side : Side) (v : Value) :
    acceptsOperator options value side.symbol v = .ok (isOrdered (· == side.ordering) value v) := by
  cases side with
  | above => exact acceptsOperator_of_ne (by decide) options value v
  | below => exact acceptsOperator_of_ne (by decide) options value v

theorem acceptsOperator_exists (options value : Option Value) :
    acceptsOperator options value "$exists" (.bool true) = .ok value.isSome := by
  rw [acceptsOperator_of_ne (by decide)]
  cases value <;> rfl

theorem acceptsClauses_exists {field : String} (hf : isNative field = false) (doc : Row) :
    acceptsClauses doc [(field, .map [("$exists", .bool true)])] =
      .ok (Value.lookup doc field).isSome :=
  acceptsClauses_single hf (by decide) fun options =>
    acceptsOperator_exists options (Value.lookup doc field)

/-! ### Queries -/

variable {store : Collection} {base : Value} {rows : List Row} {field : String}

/-- A clause joined to a base is tested on the rows that the base selects. -/
theorem select_conjoin_eq (h : store.select base = .ok rows) (clause : Fields Value) :
    store.select (conjoin base clause) = filterUntilError (acceptsClauses · clause) rows := by
  rw [Collection.select] at h ⊢
  cases hf : store.failure with
  | some reason => simp [hf] at h
  | none =>
    simp only [hf] at h ⊢
    refine filterUntilError_of_ok h fun doc b hb => ?_
    rw [accepts_conjoin_eq, hb]
    split
    · rfl
    · next hmap =>
      cases base with
      | map fields => exact absurd rfl hmap
      | _ => simp [accepts] at hb

theorem select_conjoin (h : store.select base = .ok rows) {clause : Fields Value}
    {test : Row → Bool} (hclause : ∀ doc, acceptsClauses doc clause = .ok (test doc)) :
    store.select (conjoin base clause) = .ok (rows.filter test) := by
  rw [select_conjoin_eq h]
  exact filterUntilError_of_tests fun doc _ => hclause doc

theorem select_documentBound (hf : isNative field = false) (h : store.select base = .ok rows)
    (side : Side) (v : Value) : store.select (documentBound base field side v) =
      .ok (rows.filter (((Source.documents store).view field).lies side v)) :=
  select_conjoin h fun doc => acceptsClauses_single hf (by cases side <;> decide) fun options =>
    acceptsOperator_bound options (Value.lookup doc field) side v

/-- Without keys the first document found is the first one inserted. -/
theorem find_first {filter : Value} (h : store.select filter = .ok rows) :
    store.find filter [] 0 (some 1) = .ok (rows.take 1) := by
  rw [Collection.find, h, compareRows_nil]
  simp [Except.map, window, StableSort.sort_of_eq]

theorem documentProbe_of_select (hf : isNative field = false) (h : store.select base = .ok rows)
    (side : Side) (v : Value) : documentProbe store base field side v =
      .ok (rows.any (((Source.documents store).view field).lies side v)) := by
  rw [documentProbe, find_first (select_documentBound hf h side v)]
  exact congrArg Except.ok (isEmpty_take_filter _ rows)

/-! ### Cursors -/

/-- Whether the first row that has the field holds a date there. -/
def firstHoldsDate (field : String) (rows : List Row) : Bool :=
  (rows.findSome? (Value.lookup · field)).any fun v => v.kind == .date

theorem firstHoldsDate_eq_false
    (h : ∀ row ∈ rows, ∀ t, Value.lookup row field ≠ some (.date t)) :
    firstHoldsDate field rows = false := by
  rw [firstHoldsDate]
  cases hfirst : rows.findSome? (Value.lookup · field) with
  | none => rfl
  | some v =>
    obtain ⟨row, hrow, hv⟩ := List.exists_of_findSome?_eq_some hfirst
    cases v with
    | date t => exact absurd hv (h row hrow t)
    | _ => rfl

theorem storesDates_eq_ok (hf : isNative field = false) (h : store.select base = .ok rows) :
    storesDates store base field = .ok (firstHoldsDate field rows) := by
  have hfirst : ((rows.filter fun row => (Value.lookup row field).isSome).take 1).head?.bind
      (sortValue · field) = rows.findSome? (Value.lookup · field) := by
    clear h
    induction rows with
    | nil => rfl
    | cons row rest ih =>
      cases hrow : Value.lookup row field with
      | none =>
        rw [List.filter_cons_of_neg (by simp [hrow]), List.findSome?_cons, hrow]
        exact ih
      | some v =>
        rw [List.filter_cons_of_pos (by simp [hrow]), List.findSome?_cons, hrow]
        exact sortValue_of_lookup hrow
  rw [storesDates, find_first (select_conjoin h (acceptsClauses_exists hf)), Except.map, hfirst,
    firstHoldsDate]
  cases rows.findSome? (Value.lookup · field) with
  | none => rfl
  | some v => cases v <;> rfl

theorem storesDates_of_select (hf : isNative field = false) (h : store.select base = .ok rows)
    (hd : ∀ row ∈ rows, ∀ t, Value.lookup row field ≠ some (.date t)) :
    storesDates store base field = .ok false := by
  rw [storesDates_eq_ok hf h, firstHoldsDate_eq_false hd]

/-- Where dates are found a cursor is read as dates, and otherwise it stays as it is. -/
theorem documentCursor_eq_ok {cfg : Config} {dates : Bool}
    (h : storesDates store base field = .ok dates) (c : Value) :
    documentCursor cfg store base field c =
      .ok (if cfg.castDates && dates then Filter.castDates c else c) := by
  rw [documentCursor, h]
  cases hcast : cfg.castDates with
  | false => rfl
  | true =>
    by_cases hsame : Value.strictEq (Filter.castDates c) c = true
    · have hself := Filter.castDates_eq_self_of_strictEq c hsame
      rw [hsame, hself, ite_self]
      rfl
    · rw [Bool.not_eq_true] at hsame
      rw [hsame]
      cases dates <;> rfl

/-- Where the filter selects, cursors are read without error, the same way whenever they are. -/
theorem exists_documentCursor_eq_ok (cfg : Config) (hf : isNative field = false)
    (h : store.select base = .ok rows) :
    ∃ read : Value → Value, ∀ c, documentCursor cfg store base field c = .ok (read c) :=
  ⟨_, documentCursor_eq_ok (storesDates_eq_ok hf h)⟩

/-- A cursor in which nothing is read as a date stays as it is. -/
theorem documentCursor_of_castDates (cfg : Config) (hf : isNative field = false)
    (h : store.select base = .ok rows) {c : Value} (hc : Filter.castDates c = c) :
    documentCursor cfg store base field c = .ok c := by
  rw [documentCursor_eq_ok (storesDates_eq_ok hf h), hc, ite_self]

/-- A cursor that is a date stays, and so does any cursor where no document holds a date. -/
theorem documentCursor_of_select (cfg : Config) (hf : isNative field = false)
    (h : store.select base = .ok rows) {c : Value}
    (hd : c.kind = .date ∨ ∀ row ∈ rows, ∀ t, Value.lookup row field ≠ some (.date t)) :
    documentCursor cfg store base field c = .ok c := by
  rcases hd with hd | hd
  · apply documentCursor_of_castDates cfg hf h
    cases c <;> simp [Value.kind] at hd
    rfl
  · rw [documentCursor_eq_ok (storesDates_of_select hf h hd), Bool.and_false]
    rfl

/-! ### Pages -/

theorem select_documentList {cfg : Config} {r : CursorRequest} {read : Value → Value}
    (hf : isNative r.sortField = false) (h : store.select base = .ok rows)
    (hc : ∀ c, r.cursor = some c → documentCursor cfg store base r.sortField c = .ok (read c)) :
    ∃ filter, documentList cfg store base r = .ok filter ∧
      store.select filter = .ok (((Source.documents store).view r.sortField).past
        { r with cursor := r.cursor.map read } rows) := by
  rw [documentList, View.past]
  cases hcursor : r.cursor with
  | none => exact ⟨base, rfl, h⟩
  | some c =>
    refine ⟨_, ?_, select_documentBound hf h (Side.ofCursor r.direction r.towards) (read c)⟩
    simp only [hc c hcursor]
    rfl

theorem find_sorted {filter : Value} (h : store.select filter = .ok rows) (field : String)
    (d : Direction) (skip limit : Nat) : store.find filter [(field, d)] skip (some limit) =
      .ok (((((Source.documents store).view field).sort d rows).drop skip).take limit) := by
  have hcompare : compareRows Value.lookup [(field, d)] =
      ((Source.documents store).view field).compare d := by
    funext a b
    exact compareRows_single Value.lookup field d a b
  rw [Collection.find, h, hcompare]
  rfl

theorem count_of_select {filter : Value} (h : store.select filter = .ok rows) :
    store.count filter = .ok rows.length := by
  rw [Collection.count, h]
  rfl

/-- The page past a cursor is that past the value which the cursor was read as. -/
theorem documentsByCursor_eq_page_of_read {cfg : Config} {r : CursorRequest} {read : Value → Value}
    (hf : isNative r.sortField = false)
    (h : store.select (documentFilter cfg r.filter) = .ok rows)
    (hc : ∀ c, r.cursor = some c →
      documentCursor cfg store (documentFilter cfg r.filter) r.sortField c = .ok (read c)) :
    documentsByCursor cfg store r = .ok (((Source.documents store).view r.sortField).page
      { r with cursor := r.cursor.map read } (cfg.resolveLimit r.limit).toNat rows) := by
  obtain ⟨filter, hlist, hselect⟩ := select_documentList hf h hc
  have hfind := find_sorted hselect r.sortField r.fetchDirection 0 (cfg.resolveLimit r.limit).toNat
  rw [List.drop_zero] at hfind
  simp only [documentsByCursor, hlist, hfind, count_of_select h, bind, Except.bind]
  exact pageOf_of_ok (documentProbe_of_select hf h)

theorem documentsByCursor_eq_page {cfg : Config} {r : CursorRequest}
    (hf : isNative r.sortField = false)
    (h : store.select (documentFilter cfg r.filter) = .ok rows)
    (hc : ∀ c, r.cursor = some c →
      documentCursor cfg store (documentFilter cfg r.filter) r.sortField c = .ok c) :
    documentsByCursor cfg store r = .ok (((Source.documents store).view r.sortField).page r
      (cfg.resolveLimit r.limit).toNat rows) := by
  have hpage := documentsByCursor_eq_page_of_read hf h hc
  rw [Option.map_id'] at hpage
  exact hpage

end Page

end PagedFilter
