import PagedFilter.Store

/-!
Tests that may fail, made one after the other up to the first that decides. Where none of them fails
their order is of no consequence.
-/

namespace PagedFilter

variable {α β γ ε : Type}

theorem exists_of_bind_eq_ok {x : Except ε α} {f : α → Except ε β} {b : β}
    (h : (x >>= f) = .ok b) : ∃ a, x = .ok a ∧ f a = .ok b := by
  cases x with
  | error e => simp [bind, Except.bind] at h
  | ok a => exact ⟨a, rfl, h⟩

theorem exists_of_map_eq_ok {x : Except ε α} {f : α → β} {b : β}
    (h : x.map f = .ok b) : ∃ a, x = .ok a ∧ f a = b := by
  cases x with
  | error e => simp [Except.map] at h
  | ok a =>
    rw [Except.map, Except.ok.injEq] at h
    exact ⟨a, rfl, h⟩

theorem eq_ok_of_toOption {x : Except ε α} {a : α} (h : x.toOption = some a) : x = .ok a := by
  cases x with
  | error e => simp [Except.toOption] at h
  | ok b =>
    rw [Except.toOption, Option.some.injEq] at h
    rw [h]

/-- Whether all elements are accepted; those behind the first that is not are not tested. -/
def allUntil (accepts : α → Except ε Bool) : List α → Except ε Bool
  | [] => .ok true
  | x :: rest => do
    let hit ← accepts x
    if hit then allUntil accepts rest else .ok false

theorem allUntil_cons_of_ok {accepts : α → Except ε Bool} {x : α} {b : Bool}
    (h : accepts x = .ok b) (rest : List α) :
    allUntil accepts (x :: rest) = if b then allUntil accepts rest else .ok false := by
  rw [allUntil, h]
  rfl

theorem anyUntil_cons_of_ok {accepts : α → Except ε Bool} {x : α} {b : Bool}
    (h : accepts x = .ok b) (rest : List α) :
    anyUntil accepts (x :: rest) = if b then .ok true else anyUntil accepts rest := by
  rw [anyUntil, h]
  rfl

theorem allUntil_singleton (accepts : α → Except ε Bool) (x : α) :
    allUntil accepts [x] = accepts x := by
  cases hx : accepts x with
  | error e =>
    rw [allUntil, hx]
    rfl
  | ok b =>
    rw [allUntil_cons_of_ok hx]
    cases b <;> rfl

theorem allUntil_map (accepts : β → Except ε Bool) (f : α → β) (xs : List α) :
    allUntil accepts (xs.map f) = allUntil (fun x => accepts (f x)) xs := by
  induction xs with
  | nil => rfl
  | cons x rest ih => rw [List.map_cons, allUntil, allUntil, ih]

theorem anyUntil_map (accepts : β → Except ε Bool) (f : α → β) (xs : List α) :
    anyUntil accepts (xs.map f) = anyUntil (fun x => accepts (f x)) xs := by
  induction xs with
  | nil => rfl
  | cons x rest ih => rw [List.map_cons, anyUntil, anyUntil, ih]

theorem allUntil_of_ok {accepts : α → Except ε Bool} {test : α → Bool} {xs : List α}
    (h : ∀ x ∈ xs, accepts x = .ok (test x)) : allUntil accepts xs = .ok (xs.all test) := by
  induction xs with
  | nil => rfl
  | cons x rest ih =>
    rw [allUntil_cons_of_ok (h x List.mem_cons_self), List.all_cons,
      ih fun y hy => h y (List.mem_cons_of_mem _ hy)]
    cases test x <;> rfl

theorem anyUntil_of_ok {accepts : α → Except ε Bool} {test : α → Bool} {xs : List α}
    (h : ∀ x ∈ xs, accepts x = .ok (test x)) : anyUntil accepts xs = .ok (xs.any test) := by
  induction xs with
  | nil => rfl
  | cons x rest ih =>
    rw [anyUntil_cons_of_ok (h x List.mem_cons_self), List.any_cons,
      ih fun y hy => h y (List.mem_cons_of_mem _ hy)]
    cases test x <;> rfl

/-- Tests that do not fail can be made in any order. -/
theorem allUntil_perm {accepts : α → Except ε Bool} {xs ys : List α} (hp : xs.Perm ys)
    (h : ∀ x ∈ xs, ∃ b, accepts x = .ok b) : allUntil accepts xs = allUntil accepts ys := by
  induction hp with
  | nil => rfl
  | cons x _ ih =>
    obtain ⟨b, hb⟩ := h x List.mem_cons_self
    rw [allUntil_cons_of_ok hb, allUntil_cons_of_ok hb,
      ih fun y hy => h y (List.mem_cons_of_mem _ hy)]
  | swap x y rest =>
    obtain ⟨b, hb⟩ := h x (by simp)
    obtain ⟨c, hc⟩ := h y (by simp)
    rw [allUntil_cons_of_ok hb, allUntil_cons_of_ok hc, allUntil_cons_of_ok hc,
      allUntil_cons_of_ok hb]
    cases b <;> cases c <;> rfl
  | trans hab _ ihab ihbc =>
    exact (ihab h).trans (ihbc fun y hy => h y (hab.mem_iff.2 hy))

/-! ### Selecting -/

/-- What is selected was tested and accepted. -/
theorem mem_of_filterUntilError {accepts : α → Except ε Bool} {xs ys : List α}
    (h : filterUntilError accepts xs = .ok ys) {x : α} (hx : x ∈ ys) :
    x ∈ xs ∧ accepts x = .ok true := by
  induction xs generalizing ys with
  | nil =>
    rw [filterUntilError, Except.ok.injEq] at h
    simp [← h] at hx
  | cons y rest ih =>
    obtain ⟨b, hb, h⟩ := exists_of_bind_eq_ok h
    obtain ⟨found, hfound, h⟩ := exists_of_bind_eq_ok h
    rw [Except.ok.injEq] at h
    have hlater : x ∈ found → x ∈ y :: rest ∧ accepts x = .ok true := by
      intro hx
      obtain ⟨hmem, haccepts⟩ := ih hfound hx
      exact ⟨List.mem_cons_of_mem y hmem, haccepts⟩
    rw [← h] at hx
    cases b with
    | true =>
      rcases List.mem_cons.1 hx with rfl | hx
      · exact ⟨List.mem_cons_self, hb⟩
      · exact hlater hx
    | false => exact hlater hx

/-- Tests that pass on what others accept fail on these alone. -/
theorem filterUntilError_of_ok {accepts narrowed clause : α → Except ε Bool} {xs ys : List α}
    (h : filterUntilError accepts xs = .ok ys)
    (hn : ∀ x b, accepts x = .ok b → narrowed x = if b then clause x else .ok false) :
    filterUntilError narrowed xs = filterUntilError clause ys := by
  induction xs generalizing ys with
  | nil =>
    rw [filterUntilError, Except.ok.injEq] at h
    rw [← h]
    rfl
  | cons x rest ih =>
    obtain ⟨b, hb, h⟩ := exists_of_bind_eq_ok h
    obtain ⟨found, hfound, h⟩ := exists_of_bind_eq_ok h
    rw [Except.ok.injEq] at h
    rw [filterUntilError, hn x b hb, ih hfound, ← h]
    cases b with
    | true => rfl
    | false =>
      rw [if_neg Bool.false_ne_true, if_neg Bool.false_ne_true]
      cases filterUntilError clause found <;> rfl

/-- Selecting from the same elements in another order selects the same in another order. -/
theorem exists_filterUntilError_perm {accepts : α → Except ε Bool} {xs ys found : List α}
    (hperm : ys.Perm xs) (h : filterUntilError accepts xs = .ok found) :
    ∃ others, filterUntilError accepts ys = .ok others ∧ others.Perm found := by
  induction hperm generalizing found with
  | nil => exact ⟨found, h, .refl _⟩
  | cons x _ ih =>
    obtain ⟨b, hb, h⟩ := exists_of_bind_eq_ok h
    obtain ⟨later, hlater, h⟩ := exists_of_bind_eq_ok h
    obtain ⟨others, hothers, hperm⟩ := ih hlater
    rw [Except.ok.injEq] at h
    refine ⟨if b then x :: others else others, ?_, ?_⟩
    · rw [filterUntilError, hb, hothers]
      rfl
    · rw [← h]
      cases b with
      | true => exact hperm.cons x
      | false => exact hperm
  | swap x y rest =>
    obtain ⟨b, hb, h⟩ := exists_of_bind_eq_ok h
    obtain ⟨tail, htail, h⟩ := exists_of_bind_eq_ok h
    obtain ⟨c, hc, htail⟩ := exists_of_bind_eq_ok htail
    obtain ⟨later, hlater, htail⟩ := exists_of_bind_eq_ok htail
    rw [Except.ok.injEq] at h htail
    refine ⟨_, by rw [filterUntilError, hc, filterUntilError, hb, hlater]; rfl, ?_⟩
    rw [← h, ← htail]
    cases b with
    | true =>
      cases c with
      | true => exact .swap _ _ _
      | false => exact .refl _
    | false => exact .refl _
  | trans _ _ ih ih' =>
    obtain ⟨middle, hmiddle, hperm⟩ := ih' h
    obtain ⟨others, hothers, hperm'⟩ := ih hmiddle
    exact ⟨others, hothers, hperm'.trans hperm⟩

/-! ### Failing -/

/-- Whether a computation fails, and how. -/
def outcome {α ε : Type} (x : Except ε α) : Except ε Unit := x.map fun _ => ()

theorem outcome_error_iff {x : Except ε α} {e : ε} : outcome x = .error e ↔ x = .error e := by
  cases x <;> simp [outcome, Except.map]

theorem outcome_map (x : Except ε α) (f : α → β) : outcome (x.map f) = outcome x := by
  cases x <;> rfl

theorem error_of_bind_eq_error {x : Except ε α} {f : α → Except ε β} {e : ε}
    (h : (x >>= f) = .error e) : x = .error e ∨ ∃ a, x = .ok a ∧ f a = .error e := by
  cases x with
  | error d =>
    cases h
    exact .inl rfl
  | ok a => exact .inr ⟨a, rfl, h⟩

theorem error_of_map_eq_error {x : Except ε α} {f : α → β} {e : ε} (h : x.map f = .error e) :
    x = .error e := by
  rw [← outcome_error_iff, ← outcome_map x f, outcome_error_iff, h]

section Tests

variable {accepts : α → Except ε Bool} {xs : List α} {e : ε}

theorem exists_error_of_allUntil (h : allUntil accepts xs = .error e) :
    ∃ x ∈ xs, accepts x = .error e := by
  induction xs with
  | nil => cases h
  | cons x rest ih =>
    rcases error_of_bind_eq_error h with hx | ⟨b, _, h⟩
    · exact ⟨x, List.mem_cons_self, hx⟩
    · cases b with
      | true =>
        obtain ⟨y, hy, herror⟩ := ih h
        exact ⟨y, List.mem_cons_of_mem x hy, herror⟩
      | false => cases h

theorem exists_error_of_anyUntil (h : anyUntil accepts xs = .error e) :
    ∃ x ∈ xs, accepts x = .error e := by
  induction xs with
  | nil => cases h
  | cons x rest ih =>
    rcases error_of_bind_eq_error h with hx | ⟨b, _, h⟩
    · exact ⟨x, List.mem_cons_self, hx⟩
    · cases b with
      | true => cases h
      | false =>
        obtain ⟨y, hy, herror⟩ := ih h
        exact ⟨y, List.mem_cons_of_mem x hy, herror⟩

theorem exists_error_of_filterUntilError (h : filterUntilError accepts xs = .error e) :
    ∃ x ∈ xs, accepts x = .error e := by
  induction xs with
  | nil => cases h
  | cons x rest ih =>
    rcases error_of_bind_eq_error h with hx | ⟨b, _, h⟩
    · exact ⟨x, List.mem_cons_self, hx⟩
    · rcases error_of_bind_eq_error h with hrest | ⟨found, _, h⟩
      · obtain ⟨y, hy, herror⟩ := ih hrest
        exact ⟨y, List.mem_cons_of_mem x hy, herror⟩
      · cases h

end Tests

/-- Computations that fail alike, with what is made of their results. -/
theorem bind_congr_of_outcome {x : Except ε α} {y : Except ε β} (h : outcome x = outcome y)
    {f : α → Except ε γ} {g : β → Except ε γ} (hnext : ∀ a b, x = .ok a → y = .ok b → f a = g b) :
    x >>= f = y >>= g := by
  cases x with
  | error e =>
    have hy : y = .error e := outcome_error_iff.1 h.symm
    rw [hy]
    rfl
  | ok a =>
    cases y with
    | error e => simp [outcome, Except.map] at h
    | ok b => exact hnext a b rfl rfl

theorem outcome_filterUntilError_cons (test : α → Except ε Bool) (x : α) (rest : List α) :
    outcome (filterUntilError test (x :: rest)) =
      (outcome (test x) >>= fun _ => outcome (filterUntilError test rest)) := by
  rw [filterUntilError]
  cases test x with
  | error e => rfl
  | ok b => cases filterUntilError test rest <;> rfl

/-- Tests that fail alike select or fail alike. -/
theorem outcome_filterUntilError {test other : α → Except ε Bool}
    (h : ∀ x, outcome (test x) = outcome (other x)) (xs : List α) :
    outcome (filterUntilError test xs) = outcome (filterUntilError other xs) := by
  induction xs with
  | nil => rfl
  | cons x rest ih =>
    rw [outcome_filterUntilError_cons, outcome_filterUntilError_cons, h x, ih]

end PagedFilter
