import Mathlib.Data.List.FinRange
import PagedFilter.Document.Collection
import PagedFilter.Proofs.Store
import PagedFilter.Proofs.Value.Order
import PagedFilter.Table.Query
import PagedFilter.Value.Equality

/-!
Listings of rows by several sort keys. The first key that tells two rows apart puts them in order, in
the direction of that key, and rows that no key tells apart keep the order of their insertion. There is
one such order, and both stores answer a query with a window of the rows in it.
-/

namespace PagedFilter

namespace StableSort

variable {α : Type} {compare : α → α → Ordering} {P : α → Prop}

/-! ### Positions -/

/-- The positions of the elements in the order of a stable sort. -/
def positions (compare : α → α → Ordering) (xs : List α) : List (Fin xs.length) :=
  sort (fun i j => compare (xs.get i) (xs.get j)) (List.finRange xs.length)

theorem map_positions (compare : α → α → Ordering) (xs : List α) :
    (positions compare xs).map xs.get = sort compare xs := by
  rw [positions, ← sort_map (fun _ _ => rfl), List.map_get_finRange]

/-- Of two positions the first holds the lesser element, or it is the lesser one. -/
theorem pairwise_positions (h : IsOrderOn compare P) {xs : List α} (hxs : ∀ x ∈ xs, P x) :
    (positions compare xs).Pairwise fun i j => compare (xs.get i) (xs.get j) = .lt ∨
      compare (xs.get i) (xs.get j) = .eq ∧ i < j := by
  have hget := h.comap (Q := fun _ => True) (f := xs.get) fun i _ => hxs _ (List.get_mem xs i)
  have hstable : IsStableOrder _ (List.finRange xs.length) (positions compare xs) :=
    isStableOrder_sort hget fun _ _ => trivial
  rw [List.pairwise_iff_forall_sublist]
  intro i j hij
  cases hc : compare (xs.get i) (xs.get j) with
  | lt => exact .inl rfl
  | gt => exact absurd hc (List.pairwise_iff_forall_sublist.1 hstable.ascending hij)
  | eq =>
    -- the positions of equal elements stand in the sorted list as they do in order
    have hself : compare (xs.get i) (xs.get i) = .eq := h.compare_self (hxs _ (List.get_mem xs i))
    have hclass := hij.filter (fun k => compare (xs.get i) (xs.get k) == .eq)
    have hboth : [i, j].filter (fun k => compare (xs.get i) (xs.get k) == .eq) = [i, j] := by
      rw [List.filter_cons, List.filter_cons, hself, hc]
      rfl
    rw [hstable.stable i (List.mem_finRange i), hboth] at hclass
    have hpair : [i, j].Sublist (List.finRange xs.length) := hclass.trans List.filter_sublist
    exact .inr ⟨rfl, List.pairwise_iff_forall_sublist.1 (List.pairwise_lt_finRange _) hpair⟩

/-- There is one such order of the positions. -/
theorem eq_positions (h : IsOrderOn compare P) {xs : List α} (hxs : ∀ x ∈ xs, P x)
    {order : List (Fin xs.length)} (hperm : order.Perm (List.finRange xs.length))
    (hordered : order.Pairwise fun i j => compare (xs.get i) (xs.get j) = .lt ∨
      compare (xs.get i) (xs.get j) = .eq ∧ i < j) : order = positions compare xs := by
  refine List.Perm.eq_of_pairwise (fun i j _ _ hij hji => ?_) hordered (pairwise_positions h hxs)
    (hperm.trans (sort_perm _ _).symm)
  have hswap : (compare (xs.get i) (xs.get j)).swap = compare (xs.get j) (xs.get i) :=
    h.swap (hxs _ (List.get_mem xs i)) (hxs _ (List.get_mem xs j))
  rw [← hswap] at hji
  rcases hij with hij | ⟨hij, hlt⟩ <;> rcases hji with hji | ⟨hji, hgt⟩ <;> simp_all
  exact absurd hlt (Fin.lt_asymm hgt)

end StableSort

/-! ### Directions -/

theorem Direction.isOrderOn_compare (d : Direction) :
    StableSort.IsOrderOn d.compare Value.IsFloatFree := by
  have h := Value.isOrderOn_compare
  cases d with
  | asc => exact h
  | desc => exact h.flip

theorem Direction.compare_eq_iff (d : Direction) {a b : Value} (ha : a.IsFloatFree)
    (hb : b.IsFloatFree) : d.compare a b = .eq ↔ a = b := by
  cases d with
  | asc => exact Value.compare_eq_iff ha hb
  | desc => exact (Value.compare_eq_iff hb ha).trans eq_comm

/-! ### Rows in order -/

section Keys

variable (cell : Row → String → Option Value)

/-- The value of a row under a field; a missing one counts as null. -/
def sortCell (row : Row) (field : String) : Value := (cell row field).getD .null

/-- No key tells the rows apart. -/
def AreTied (keys : List SortKey) (a b : Row) : Prop :=
  ∀ k ∈ keys, sortCell cell a k.1 = sortCell cell b k.1

/-- The first key that tells the rows apart puts `a` before `b`. -/
def Precedes (keys : List SortKey) (a b : Row) : Prop :=
  ∃ front field d behind, keys = front ++ (field, d) :: behind ∧ AreTied cell front a b ∧
    d.compare (sortCell cell a field) (sortCell cell b field) = .lt

/-- No cell that the keys sort by holds a double. -/
def HasFloatFreeCells (keys : List SortKey) (row : Row) : Prop :=
  ∀ k ∈ keys, (sortCell cell row k.1).IsFloatFree

instance (keys : List SortKey) (row : Row) : Decidable (HasFloatFreeCells cell keys row) :=
  inferInstanceAs (Decidable (∀ k ∈ keys, (sortCell cell row k.1).IsFloatFree))

/-- The positions of all rows, each once: a row stands in front of those it precedes, and of those
that are tied with it and were inserted after it. -/
structure IsListing (keys : List SortKey) (rows : List Row) (order : List (Fin rows.length)) :
    Prop where
  perm : order.Perm (List.finRange rows.length)
  ordered : order.Pairwise fun i j => Precedes cell keys (rows.get i) (rows.get j) ∨
    AreTied cell keys (rows.get i) (rows.get j) ∧ i < j

end Keys

section Compare

variable {cell : Row → String → Option Value} {keys : List SortKey}

theorem isOrderOn_compareRows (keys : List SortKey) :
    StableSort.IsOrderOn (compareRows cell keys) (HasFloatFreeCells cell keys) := by
  induction keys with
  | nil => exact ⟨fun _ _ => rfl, fun _ _ _ hab _ => hab⟩
  | cons k rest ih =>
    have hfirst := k.2.isOrderOn_compare.comap (Q := HasFloatFreeCells cell (k :: rest))
      (f := (sortCell cell · k.1)) fun _ hrow => hrow k List.mem_cons_self
    have hrest := ih.comap (Q := HasFloatFreeCells cell (k :: rest)) (f := id)
      fun _ hrow l hl => hrow l (List.mem_cons_of_mem k hl)
    exact hfirst.then hrest

theorem areTied_cons {k : SortKey} {a b : Row} : AreTied cell (k :: keys) a b ↔
    sortCell cell a k.1 = sortCell cell b k.1 ∧ AreTied cell keys a b := List.forall_mem_cons

theorem precedes_cons {k : SortKey} {a b : Row} : Precedes cell (k :: keys) a b ↔
    k.2.compare (sortCell cell a k.1) (sortCell cell b k.1) = .lt ∨
      sortCell cell a k.1 = sortCell cell b k.1 ∧ Precedes cell keys a b := by
  constructor
  · rintro ⟨front, field, d, behind, hkeys, htied, hlt⟩
    cases front with
    | nil =>
      obtain ⟨rfl, _⟩ := List.cons.inj hkeys
      exact .inl hlt
    | cons l front =>
      obtain ⟨rfl, hrest⟩ := List.cons.inj hkeys
      obtain ⟨hcell, htied⟩ := areTied_cons.1 htied
      exact .inr ⟨hcell, front, field, d, behind, hrest, htied, hlt⟩
  · rintro (hlt | ⟨hcell, front, field, d, behind, hkeys, htied, hlt⟩)
    · exact ⟨[], k.1, k.2, keys, rfl, fun _ hk => absurd hk List.not_mem_nil, hlt⟩
    · exact ⟨k :: front, field, d, behind, by rw [hkeys]; rfl, areTied_cons.2 ⟨hcell, htied⟩, hlt⟩

theorem not_precedes_nil (a b : Row) : ¬Precedes cell [] a b := by
  rintro ⟨front, field, d, behind, hkeys, _⟩
  simp at hkeys

theorem compareRows_eq_iff {a b : Row} (ha : HasFloatFreeCells cell keys a)
    (hb : HasFloatFreeCells cell keys b) :
    compareRows cell keys a b = .eq ↔ AreTied cell keys a b := by
  induction keys with
  | nil => exact iff_of_true rfl fun _ hk => absurd hk List.not_mem_nil
  | cons k rest ih =>
    obtain ⟨hka, hresta⟩ := List.forall_mem_cons.1 ha
    obtain ⟨hkb, hrestb⟩ := List.forall_mem_cons.1 hb
    rw [compareRows, Ordering.then_eq_eq, areTied_cons, ih hresta hrestb]
    exact and_congr_left' (k.2.compare_eq_iff hka hkb)

theorem compareRows_lt_iff {a b : Row} (ha : HasFloatFreeCells cell keys a)
    (hb : HasFloatFreeCells cell keys b) :
    compareRows cell keys a b = .lt ↔ Precedes cell keys a b := by
  induction keys with
  | nil => exact iff_of_false (by simp [compareRows]) (not_precedes_nil a b)
  | cons k rest ih =>
    obtain ⟨hka, hresta⟩ := List.forall_mem_cons.1 ha
    obtain ⟨hkb, hrestb⟩ := List.forall_mem_cons.1 hb
    rw [compareRows, Ordering.then_eq_lt, precedes_cons, ih hresta hrestb]
    exact or_congr_right (and_congr_left' (k.2.compare_eq_iff hka hkb))

variable {rows : List Row} (hrows : ∀ row ∈ rows, HasFloatFreeCells cell keys row)
include hrows

theorem isListing_iff_pairwise {order : List (Fin rows.length)} :
    IsListing cell keys rows order ↔ order.Perm (List.finRange rows.length) ∧
      order.Pairwise fun i j => compareRows cell keys (rows.get i) (rows.get j) = .lt ∨
        compareRows cell keys (rows.get i) (rows.get j) = .eq ∧ i < j := by
  have hpair : ∀ i j : Fin rows.length,
      (compareRows cell keys (rows.get i) (rows.get j) = .lt ∨
        compareRows cell keys (rows.get i) (rows.get j) = .eq ∧ i < j) ↔
      (Precedes cell keys (rows.get i) (rows.get j) ∨
        AreTied cell keys (rows.get i) (rows.get j) ∧ i < j) := by
    intro i j
    have hi := hrows _ (List.get_mem rows i)
    have hj := hrows _ (List.get_mem rows j)
    rw [compareRows_lt_iff hi hj, compareRows_eq_iff hi hj]
  simp only [hpair]
  exact ⟨fun h => ⟨h.perm, h.ordered⟩, fun h => ⟨h.1, h.2⟩⟩

/-- There is one listing of the rows, the one that sorting makes. -/
theorem isListing_iff {order : List (Fin rows.length)} : IsListing cell keys rows order ↔
    order = StableSort.positions (compareRows cell keys) rows := by
  have horder : StableSort.IsOrderOn (compareRows cell keys) _ := isOrderOn_compareRows keys
  rw [isListing_iff_pairwise hrows]
  constructor
  · rintro ⟨hperm, hordered⟩
    exact StableSort.eq_positions horder hrows hperm hordered
  · rintro rfl
    exact ⟨StableSort.sort_perm _ _, StableSort.pairwise_positions horder hrows⟩

end Compare

theorem isListing_nil {cell : Row → String → Option Value} (rows : List Row) :
    IsListing cell [] rows (List.finRange rows.length) := by
  refine ⟨.refl _, (List.pairwise_lt_finRange _).imp fun hlt => .inr ⟨?_, hlt⟩⟩
  exact fun _ hk => absurd hk List.not_mem_nil

/-! ### Selecting without error -/

theorem Document.Collection.select_of_tests {store : Collection} (hstore : store.failure = none)
    {filter : Value} {matched : Row → Bool}
    (h : ∀ doc ∈ store.docs, accepts doc filter = .ok (matched doc)) :
    store.select filter = .ok (store.docs.filter matched) := by
  rw [select, hstore]
  exact filterUntilError_of_tests h

theorem Table.select_of_no_faults {table : Table} (htable : table.failure = none) {q : Query}
    (h : ∀ row ∈ table.rows, Clause.faultOfList? row q.clauses = none) :
    table.select q = .ok (table.rows.filter (selects q.clauses)) := by
  simp only [Table.select, htable, List.findSome?_eq_none_iff.2 h]

/-! ### Windows -/

theorem getElem?_window {α : Type} (skip : Nat) (limit : Option Nat) (xs : List α) (i : Nat) :
    (window skip limit xs)[i]? = if limit.all (i < ·) then xs[skip + i]? else none := by
  cases limit with
  | none => simp [window]
  | some n => simp [window, List.getElem?_take]

/-- What a store answers with the rows that a filter selects: their number, and those in a window of
their only listing. Without keys this is the order of insertion. -/
def AnswersWithWindow (cell : Row → String → Option Value) (keys : List SortKey) (rows : List Row)
    (skip : Nat) (limit : Option Nat) (found : Except StoreError (List Row))
    (count : Except StoreError Nat) : Prop :=
  ∃ order, (∀ other, IsListing cell keys rows other ↔ other = order) ∧
    (keys = [] → order = List.finRange rows.length) ∧ count = .ok order.length ∧
    ∃ page, found = .ok page ∧ ∀ i : Nat, page[i]? =
      if limit.all (i < ·) then (order.map rows.get)[skip + i]? else none

theorem answersWithWindow_sort {cell : Row → String → Option Value} {keys : List SortKey}
    {rows : List Row} (hrows : ∀ row ∈ rows, HasFloatFreeCells cell keys row) (skip : Nat)
    (limit : Option Nat) :
    AnswersWithWindow cell keys rows skip limit
      (.ok (window skip limit (StableSort.sort (compareRows cell keys) rows)))
      (.ok rows.length) := by
  refine ⟨StableSort.positions (compareRows cell keys) rows, fun other => isListing_iff hrows, ?_,
    ?_, _, rfl, fun i => ?_⟩
  · rintro rfl
    exact ((isListing_iff hrows).1 (isListing_nil rows)).symm
  · rw [StableSort.positions, StableSort.length_sort, List.length_finRange]
  · rw [getElem?_window, StableSort.map_positions]

/-- Where a filter fails on no document and on no row, and no cell that is sorted by holds a double,
both stores answer with a window of the only listing of the rows that the filter selects. -/
theorem stores_answer_with_window :
    (∀ (store : Document.Collection) (filter : Value) (matched : Row → Bool) (keys : List SortKey)
      (skip : Nat) (limit : Option Nat), store.failure = none →
      (∀ doc ∈ store.docs, Document.accepts doc filter = .ok (matched doc)) →
      (∀ doc ∈ store.docs.filter matched, HasFloatFreeCells Value.lookup keys doc) →
      AnswersWithWindow Value.lookup keys (store.docs.filter matched) skip limit
        (store.find filter keys skip limit) (store.count filter)) ∧
    ∀ (table : Table) (q : Table.Query), table.failure = none →
      (∀ row ∈ table.rows, Table.Clause.faultOfList? row q.clauses = none) →
      (∀ row ∈ table.rows.filter (Table.selects q.clauses),
        HasFloatFreeCells Table.resolve q.order row) →
      AnswersWithWindow Table.resolve q.order (table.rows.filter (Table.selects q.clauses))
        (q.offset.getD 0) q.limit (table.fetch q) (table.count q) := by
  constructor
  · intro store filter matched keys skip limit hfailure htests hcells
    have hselect := Document.Collection.select_of_tests hfailure htests
    rw [Document.Collection.find, Document.Collection.count, hselect]
    exact answersWithWindow_sort hcells skip limit
  · intro table q hfailure hfaults hcells
    have hselect := Table.select_of_no_faults hfailure hfaults
    rw [Table.fetch, Table.count, hselect]
    exact answersWithWindow_sort hcells _ _

theorem windows_of_tied_roles :
    let rows : List Row := [[("id", .int 1), ("n", .int 1), ("role", .str "b")],
      [("id", .int 2), ("n", .int 1), ("role", .str "a")], [("id", .int 3), ("role", .str "b")],
      [("id", .int 4), ("n", .int 1), ("role", .str "a")], [("id", .int 5), ("n", .int 3)]]
    let keys : List SortKey := [("role", .desc), ("n", .asc)]
    let filter : Value := .map [("id", .map [("$ne", .int 3)])]
    let q : Table.Query := ⟨"t", [.compare "t.id" .ne (.int 3)], keys, some (2 ^ 64 - 1), none⟩
    let matched (row : Row) : Bool := Fields.find? row "id" != some (.int 3)
    AnswersWithWindow Value.lookup keys (rows.filter matched) 1 (some 2)
        ((Document.Collection.ofList rows).find filter keys 1 (some 2))
        ((Document.Collection.ofList rows).count filter) ∧
      AnswersWithWindow Table.resolve keys (rows.filter (Table.selects q.clauses)) 0
        (some (2 ^ 64 - 1)) ((Table.ofRows "t" rows).fetch q) ((Table.ofRows "t" rows).count q) := by
  intro rows keys filter q matched
  have htests : ∀ doc ∈ rows, Document.accepts doc filter = .ok (matched doc) := by decide +kernel
  have hfaults : ∀ row ∈ rows, Table.Clause.faultOfList? row q.clauses = none := by decide +kernel
  have hdocuments : ∀ doc ∈ rows.filter matched, HasFloatFreeCells Value.lookup keys doc := by
    decide +kernel
  have hcells : ∀ row ∈ rows.filter (Table.selects q.clauses),
      HasFloatFreeCells Table.resolve q.order row := by
    decide +kernel
  obtain ⟨hfind, hfetch⟩ := stores_answer_with_window
  exact ⟨hfind (.ofList rows) filter matched keys 1 (some 2) rfl htests hdocuments,
    hfetch (.ofRows "t" rows) q rfl hfaults hcells⟩

end PagedFilter
