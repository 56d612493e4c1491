import PagedFilter.Table.Evaluate
import PagedFilter.Proofs.Table.Kleene

/-!
The truth of lists of clauses that are joined in one way, and of lists without their empty groups,
which have the same faults.
-/

namespace PagedFilter.Table

namespace Clause

theorem truthFrom_of_and (row : Row) (passed present : Truth) (cs : List Clause)
    (h : ∀ c ∈ cs, c.connective = .and) : truthFrom row passed present cs =
      passed.or (present.and (Truth.all (cs.map (truth row)))) := by
  induction cs generalizing present with
  | nil => simp [truthFrom, Truth.all, Truth.and_true]
  | cons c rest ih =>
    have hr : ∀ d ∈ rest, d.connective = .and := fun d hd => h d (by simp [hd])
    rw [truthFrom_and row passed present c rest (h c (by simp)), ih _ hr, Truth.and_assoc]
    rfl

/-- Clauses joined by `and` alone hold all at once. -/
theorem truthOfList_of_and (row : Row) (cs : List Clause) (h : ∀ c ∈ cs, c.connective = .and) :
    truthOfList row cs = Truth.all (cs.map (truth row)) := by
  cases cs with
  | nil => rfl
  | cons c rest =>
    have hr : ∀ d ∈ rest, d.connective = .and := fun d hd => h d (by simp [hd])
    rw [truthOfList, truthFrom_of_and row _ _ rest hr, Truth.false_or]
    rfl

theorem truthFrom_of_or (row : Row) (passed present : Truth) (cs : List Clause)
    (h : ∀ c ∈ cs, c.connective = .or) : truthFrom row passed present cs =
      (passed.or present).or (Truth.any (cs.map (truth row))) := by
  induction cs generalizing passed present with
  | nil => simp [truthFrom, Truth.any, Truth.or_false]
  | cons c rest ih =>
    have hr : ∀ d ∈ rest, d.connective = .or := fun d hd => h d (by simp [hd])
    have hc := h c (by simp)
    simp only [truthFrom, hc, ih _ _ hr, List.map_cons, Truth.any, Truth.or_assoc]

/-- Clauses joined by `or` after the first one are alternatives, however the first one is joined. -/
theorem truthOfList_of_or (row : Row) (c : Clause) (cs : List Clause)
    (h : ∀ d ∈ cs, d.connective = .or) :
    truthOfList row (c :: cs) = Truth.any ((c :: cs).map (truth row)) := by
  rw [truthOfList, truthFrom_of_or row _ _ cs h, Truth.false_or]
  rfl

/-! ### Pruning -/

theorem prune_singleton (c : Clause) : prune [c] = (prune? c).toList := by simp [prune]

theorem prune_cons (c : Clause) (cs : List Clause) : prune (c :: cs) = prune [c] ++ prune cs := by
  simp [prune]

theorem connective_of_mem_prune? {c d : Clause} (h : prune? c = some d) :
    d.connective = c.connective := by
  cases c with
  | group joined clauses =>
    simp only [prune?] at h
    split at h
    · simp at h
    · simp only [Option.some.injEq] at h
      rw [← h]
      rfl
  | _ => simp only [prune?, Option.some.injEq] at h; rw [← h]

theorem connective_of_mem_prune {cs : List Clause} {k : Connective}
    (h : ∀ c ∈ cs, c.connective = k) : ∀ d ∈ prune cs, d.connective = k := by
  induction cs with
  | nil => simp [prune]
  | cons c rest ih =>
    intro d hd
    rw [prune, List.mem_append, Option.mem_toList] at hd
    rcases hd with hd | hd
    · rw [connective_of_mem_prune? hd]
      exact h c (by simp)
    · exact ih (fun e he => h e (by simp [he])) d hd

theorem prune_ne_nil_of_mem {c : Clause} {cs : List Clause} (hc : c ∈ cs) (h : prune [c] ≠ []) :
    prune cs ≠ [] := by
  obtain ⟨as, bs, rfl⟩ := List.append_of_mem hc
  rw [prune_append, prune_cons c bs]
  simp [h]

/-- The truth of clauses that are joined by `and`, groups without clauses aside, is put together
from the truths of the parts of the list. -/
theorem truthOfList_prune_append (row : Row) {as bs : List Clause}
    (ha : ∀ c ∈ as, c.connective = .and) (hb : ∀ c ∈ bs, c.connective = .and) :
    truthOfList row (prune (as ++ bs)) =
      (truthOfList row (prune as)).and (truthOfList row (prune bs)) := by
  have hpa := connective_of_mem_prune ha
  have hpb := connective_of_mem_prune hb
  have hab : ∀ c ∈ prune as ++ prune bs, c.connective = .and := by
    intro c hc
    rcases List.mem_append.1 hc with hc | hc
    · exact hpa c hc
    · exact hpb c hc
  rw [prune_append, truthOfList_of_and row _ hab, List.map_append, Truth.all_append,
    truthOfList_of_and row _ hpa, truthOfList_of_and row _ hpb]

theorem prune_group_of_ne_nil {clauses : List Clause} (h : prune clauses ≠ [])
    (joined : Connective) : prune [group joined clauses] = [group joined (prune clauses)] := by
  simp [prune_singleton, prune?, h]

theorem prune_group_of_nil {clauses : List Clause} (h : prune clauses = [])
    (joined : Connective) : prune [group joined clauses] = [] := by
  simp [prune_singleton, prune?, h]

theorem truthOfList_prune_group (row : Row) (joined : Connective) (clauses : List Clause) :
    truthOfList row (prune [group joined clauses]) = truthOfList row (prune clauses) := by
  by_cases h : prune clauses = []
  · rw [prune_group_of_nil h, h]
  · rw [prune_group_of_ne_nil h, truthOfList_singleton, truth]

end Clause

/-! ### Faults -/

/-- Evaluates clauses on a row; the fault is the operand of a pattern that is too large. -/
def Clause.evaluate (row : Row) (clauses : List Clause) : Except StoreError Truth :=
  match Clause.faultOfList? row clauses with
  | some operand => .error (.invalidPattern operand)
  | none => .ok (Clause.truthOfList row clauses)

theorem faultOfList?_eq_none_iff (row : Row) (cs : List Clause) :
    Clause.faultOfList? row cs = none ↔ ∀ c ∈ cs, c.fault? row = none := by
  induction cs with
  | nil => simp [Clause.faultOfList?]
  | cons c rest ih =>
    rw [Clause.faultOfList?, List.forall_mem_cons, ← ih]
    cases c.fault? row <;> simp

mutual

theorem faultOfList?_prune? (row : Row) :
    (c : Clause) → Clause.faultOfList? row (Clause.prune? c).toList = c.fault? row
  | .group joined clauses => by
    have ih := faultOfList?_prune row clauses
    rw [Clause.fault?, ← ih, Clause.prune?]
    cases h : Clause.prune clauses with
    | nil => rfl
    | cons d rest => simp [Clause.faultOfList?, Clause.fault?]
  | .compare _ _ _ => by simp [Clause.prune?, Clause.faultOfList?]
  | .isIn _ _ => by simp [Clause.prune?, Clause.faultOfList?]
  | .notIn _ _ => by simp [Clause.prune?, Clause.faultOfList?]
  | .isNull _ => by simp [Clause.prune?, Clause.faultOfList?]
  | .isNotNull _ => by simp [Clause.prune?, Clause.faultOfList?]
  | .never => by simp [Clause.prune?, Clause.faultOfList?]

/-- Dropping empty groups drops no fault. -/
theorem faultOfList?_prune (row : Row) :
    (cs : List Clause) → Clause.faultOfList? row (Clause.prune cs) = Clause.faultOfList? row cs
  | [] => rfl
  | c :: rest => by
    rw [Clause.prune, faultOfList?_append, faultOfList?_prune? row c, faultOfList?_prune row rest,
      Clause.faultOfList?]

end

end PagedFilter.Table
