import PagedFilter.Proofs.Table.Pruned

/-!
Runs of clauses. A list of clauses is an alternative of runs, each of which is a conjunction: it is
cut in front of every clause but the first that joins by `or`. Clauses that join by `and` go to the
last run alone, whatever stands before it.
-/

namespace PagedFilter.Table

namespace Truth

theorem any_append (as bs : List Truth) : any (as ++ bs) = (any as).or (any bs) := by
  induction as with
  | nil => exact (false_or _).symm
  | cons a rest ih => rw [List.cons_append, any, any, ih, or_assoc]

theorem or_beq_true (a b : Truth) :
    (or a b == some true) = (a == some true || b == some true) := by
  rcases a with _ | _ | _ <;> rcases b with _ | _ | _ <;> rfl

theorem all_beq_true (as : List Truth) : (all as == some true) = as.all (· == some true) := by
  induction as with
  | nil => rfl
  | cons a rest ih => rw [all, and_beq_true, ih, List.all_cons]

theorem any_beq_true (as : List Truth) : (any as == some true) = as.any (· == some true) := by
  induction as with
  | nil => rfl
  | cons a rest ih => rw [any, or_beq_true, ih, List.any_cons]

end Truth

/-- Clauses as an alternative: the runs that a later one follows, and the last run. -/
structure Runs where
  earlier : List (List Clause)
  last : List Clause

namespace Runs

/-- Adds a clause to the last run, or begins a run with it. -/
def add (runs : Runs) (c : Clause) : Runs :=
  match c.connective with
  | .or => ⟨runs.earlier ++ [runs.last], [c]⟩
  | .and => ⟨runs.earlier, runs.last ++ [c]⟩

/-- Whether all clauses of some run before the last one are true of a row. -/
def acceptsEarlier (runs : Runs) (row : Row) : Bool :=
  runs.earlier.any fun run => run.all fun c => c.truth row == some true

/-- Whether all clauses of the last run are true of a row. -/
def acceptsLast (runs : Runs) (row : Row) : Bool := runs.last.all fun c => c.truth row == some true

/-- The truth of the runs before the last one. -/
def passed (runs : Runs) (row : Row) : Truth :=
  Truth.any (runs.earlier.map fun run => Truth.all (run.map (Clause.truth row)))

/-- The truth of the last run. -/
def present (runs : Runs) (row : Row) : Truth := Truth.all (runs.last.map (Clause.truth row))

theorem add_of_and {c : Clause} (h : c.connective = .and) (runs : Runs) :
    runs.add c = ⟨runs.earlier, runs.last ++ [c]⟩ := by rw [add, h]

theorem add_of_or {c : Clause} (h : c.connective = .or) (runs : Runs) :
    runs.add c = ⟨runs.earlier ++ [runs.last], [c]⟩ := by rw [add, h]

theorem foldl_add_of_and {cs : List Clause} (h : ∀ c ∈ cs, c.connective = .and) (runs : Runs) :
    cs.foldl add runs = ⟨runs.earlier, runs.last ++ cs⟩ := by
  induction cs generalizing runs with
  | nil => rw [List.foldl_nil, List.append_nil]
  | cons c rest ih =>
    rw [List.foldl_cons, add_of_and (h c List.mem_cons_self),
      ih fun d hd => h d (List.mem_cons_of_mem _ hd), List.append_assoc, List.singleton_append]

theorem passed_beq_true (runs : Runs) (row : Row) :
    (runs.passed row == some true) = runs.acceptsEarlier row := by
  rw [passed, Truth.any_beq_true, List.any_map]
  simp only [Function.comp_def, Truth.all_beq_true, List.all_map]
  rfl

theorem present_beq_true (runs : Runs) (row : Row) :
    (runs.present row == some true) = runs.acceptsLast row := by
  rw [present, Truth.all_beq_true, List.all_map]
  rfl

end Runs

namespace Clause

/-- The runs of clauses. The connective of the first clause is of no effect. -/
def runs : List Clause → Runs
  | [] => ⟨[], []⟩
  | c :: rest => rest.foldl Runs.add ⟨[], [c]⟩

/-- By induction on the clauses to come: those so far are the runs that the evaluation has passed
and the run that it is in. -/
theorem truthFrom_eq_runs (row : Row) (runs : Runs) (cs : List Clause) :
    truthFrom row (runs.passed row) (runs.present row) cs =
      ((cs.foldl Runs.add runs).passed row).or ((cs.foldl Runs.add runs).present row) := by
  induction cs generalizing runs with
  | nil => rw [truthFrom, List.foldl_nil]
  | cons c rest ih =>
    rw [List.foldl_cons, ← ih (runs.add c)]
    cases hc : c.connective with
    | and =>
      have hpresent : (runs.present row).and (c.truth row) = (runs.add c).present row := by
        simp [Runs.add_of_and hc, Runs.present, Truth.all_append, Truth.all, Truth.and_true]
      have hpassed : runs.passed row = (runs.add c).passed row := by
        rw [Runs.add_of_and hc]
        rfl
      rw [truthFrom_and row _ _ c rest hc, hpresent, hpassed]
    | or =>
      have hpresent : c.truth row = (runs.add c).present row := by
        simp [Runs.add_of_or hc, Runs.present, Truth.all, Truth.and_true]
      have hpassed : (runs.passed row).or (runs.present row) = (runs.add c).passed row := by
        simp [Runs.add_of_or hc, Runs.passed, Runs.present, Truth.any_append, Truth.any,
          Truth.or_false]
      simp only [truthFrom, hc]
      rw [hpresent, hpassed]

/-- A list of clauses is the alternative of its runs. -/
theorem truthOfList_eq_runs (row : Row) (cs : List Clause) :
    truthOfList row cs = ((runs cs).passed row).or ((runs cs).present row) := by
  cases cs with
  | nil => rfl
  | cons c rest =>
    have hfirst : (⟨[], [c]⟩ : Runs).present row = c.truth row := by
      simp [Runs.present, Truth.all, Truth.and_true]
    rw [truthOfList, runs, ← truthFrom_eq_runs row ⟨[], [c]⟩ rest, hfirst]
    rfl

theorem selects_eq_runs (row : Row) (cs : List Clause) :
    selects cs row = ((runs cs).acceptsEarlier row || (runs cs).acceptsLast row) := by
  rw [selects, truthOfList_eq_runs, Truth.or_beq_true, Runs.passed_beq_true, Runs.present_beq_true]

section Append

variable {as bs : List Clause} (hb : ∀ c ∈ bs, c.connective = .and)
include hb

/-- Clauses that join by `and` narrow the last run. -/
theorem runs_append : runs (as ++ bs) = ⟨(runs as).earlier, (runs as).last ++ bs⟩ := by
  cases as with
  | nil =>
    cases bs with
    | nil => rfl
    | cons c rest =>
      have hr : ∀ d ∈ rest, d.connective = .and := fun d hd => hb d (List.mem_cons_of_mem _ hd)
      exact Runs.foldl_add_of_and hr ⟨[], [c]⟩
  | cons c rest => rw [List.cons_append, runs, List.foldl_append, Runs.foldl_add_of_and hb, runs]

theorem selects_append (row : Row) : selects (as ++ bs) row =
    ((runs as).acceptsEarlier row || ((runs as).acceptsLast row && selects bs row)) := by
  have hbs : selects bs row = bs.all fun c => c.truth row == some true := by
    rw [selects, truthOfList_of_and row bs hb, Truth.all_beq_true, List.all_map]
    rfl
  rw [selects_eq_runs, runs_append hb, hbs, Runs.acceptsLast, List.all_append]
  rfl

end Append

theorem evaluate_eq_true_iff (row : Row) (cs : List Clause) :
    evaluate row cs = .ok (some true) ↔ faultOfList? row cs = none ∧ selects cs row = true := by
  rw [evaluate, selects, beq_iff_eq]
  cases faultOfList? row cs <;> simp

/-! ### One run -/

section Single

variable {as : List Clause} (ha : ∀ c ∈ as.tail, c.connective = .and)
include ha

theorem runs_of_and : runs as = ⟨[], as⟩ := by
  cases as with
  | nil => rfl
  | cons c rest => exact Runs.foldl_add_of_and ha ⟨[], [c]⟩

theorem truthOfList_append {bs : List Clause} (hb : ∀ c ∈ bs, c.connective = .and) (row : Row) :
    truthOfList row (as ++ bs) = (truthOfList row as).and (truthOfList row bs) := by
  rw [truthOfList_eq_runs, truthOfList_eq_runs row as, truthOfList_of_and row bs hb, runs_append hb,
    runs_of_and ha]
  simp only [Runs.passed, Runs.present, List.map_nil, List.map_append, Truth.any, Truth.all_append,
    Truth.false_or]

/-- Clauses that narrow a single run are evaluated after it and fail only if it does not. -/
theorem evaluate_append {bs : List Clause} (hb : ∀ c ∈ bs, c.connective = .and) (row : Row) :
    evaluate row (as ++ bs) = (do
      let own ← evaluate row as
      let added ← evaluate row bs
      return own.and added) := by
  rw [evaluate, faultOfList?_append, truthOfList_append ha hb, evaluate, evaluate]
  cases faultOfList? row as <;> cases faultOfList? row bs <;> rfl

theorem evaluate_append_eq_true_iff {bs : List Clause} (hb : ∀ c ∈ bs, c.connective = .and)
    (row : Row) : evaluate row (as ++ bs) = .ok (some true) ↔
      evaluate row as = .ok (some true) ∧ evaluate row bs = .ok (some true) := by
  simp only [evaluate_eq_true_iff, selects, faultOfList?_eq_none_iff, truthOfList_append ha hb,
    Truth.and_beq_true, List.forall_mem_append, Bool.and_eq_true]
  exact and_and_and_comm

end Single

end Clause

end PagedFilter.Table
