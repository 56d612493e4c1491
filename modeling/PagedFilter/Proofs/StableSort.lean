import PagedFilter.StableSort

/-!
What stable sorting does under an order that is total and transitive on the elements: the result is
in order, and sorting what a test selects is selecting from what is sorted.
-/

namespace PagedFilter.StableSort

variable {α : Type} {compare : α → α → Ordering} {P : α → Prop}

/-- A comparison that is total and transitive on the elements with a property. -/
structure IsOrderOn (compare : α → α → Ordering) (P : α → Prop) : Prop where
  swap : ∀ {x y}, P x → P y → (compare x y).swap = compare y x
  trans : ∀ {x y z}, P x → P y → P z →
    compare x y ≠ .gt → compare y z ≠ .gt → compare x z ≠ .gt

theorem IsOrderOn.not_gt_of_not_lt (h : IsOrderOn compare P) {x y : α} (hx : P x) (hy : P y)
    (hlt : compare x y ≠ .lt) : compare y x ≠ .gt := by
  rw [← h.swap hx hy]
  intro hs
  cases hc : compare x y <;> simp_all

theorem IsOrderOn.not_lt_of_not_gt (h : IsOrderOn compare P) {x y : α} (hx : P x) (hy : P y)
    (hgt : compare x y ≠ .gt) : compare y x ≠ .lt := by
  rw [← h.swap hx hy]
  intro hs
  cases hc : compare x y <;> simp_all

theorem IsOrderOn.irrefl (h : IsOrderOn compare P) {x : α} (hx : P x) : compare x x ≠ .lt := by
  intro hlt
  have hs := h.swap hx hx
  rw [hlt] at hs
  simp at hs

theorem IsOrderOn.lt_of_not_gt_of_lt (h : IsOrderOn compare P) {x y z : α} (hx : P x) (hy : P y)
    (hz : P z) (hxy : compare x y ≠ .gt) (hyz : compare y z = .lt) : compare x z = .lt := by
  have hzy : compare z y = .gt := by
    rw [← h.swap hy hz, hyz]
    rfl
  by_cases hxz : compare x z = .lt
  · exact hxz
  · have hzx : compare z x ≠ .gt := h.not_gt_of_not_lt hx hz hxz
    exact absurd hzy (h.trans hz hx hy hzx hxy)

/-- Elements are ordered as what is compared of them. -/
theorem IsOrderOn.comap {β : Type} {Q : β → Prop} (h : IsOrderOn compare P) {f : β → α}
    (hf : ∀ x, Q x → P (f x)) : IsOrderOn (fun x y => compare (f x) (f y)) Q where
  swap := fun {x y} hx hy => h.swap (hf x hx) (hf y hy)
  trans := fun {x y z} hx hy hz => h.trans (hf x hx) (hf y hy) (hf z hz)

/-! ### Comparisons in a row -/

/-- What comparing `x` with `y` and `y` with `z`, neither of them greater, tells about `x` and `z`. -/
def Chains (xy yz xz : Ordering) : Prop := xy ≠ .gt → yz ≠ .gt → xz = xy.then yz

/-- Comparing first by one thing and then by another. -/
theorem Chains.then {xy yz xz xy' yz' xz' : Ordering} (h : Chains xy yz xz)
    (h' : Chains xy' yz' xz') : Chains (xy.then xy') (yz.then yz') (xz.then xz') := by
  intro hxy hyz
  have hfirst : xz = xy.then yz := by
    refine h (fun hgt => hxy ?_) (fun hgt => hyz ?_) <;> rw [hgt] <;> rfl
  cases xy <;> cases yz <;> cases xy' <;> simp_all [Chains, Ordering.then]

/-- A comparison that chains is transitive. -/
theorem Chains.ne_gt {xy yz xz : Ordering} (h : Chains xy yz xz) (hxy : xy ≠ .gt)
    (hyz : yz ≠ .gt) : xz ≠ .gt := by
  rw [h hxy hyz]
  cases xy <;> simp_all [Ordering.then]

theorem chains_of_transCmp (compare : α → α → Ordering) [Std.TransCmp compare] (x y z : α) :
    Chains (compare x y) (compare y z) (compare x z) := by
  intro hxy hyz
  cases hc : compare x y with
  | lt => exact Std.TransCmp.lt_of_lt_of_isLE hc (Ordering.isLE_iff_ne_gt.2 hyz)
  | eq => exact Std.TransCmp.congr_left hc
  | gt => exact absurd hc hxy

theorem IsOrderOn.chains (h : IsOrderOn compare P) {x y z : α} (hx : P x) (hy : P y) (hz : P z) :
    Chains (compare x y) (compare y z) (compare x z) := by
  intro hxy hyz
  have hxz : compare x z ≠ .gt := h.trans hx hy hz hxy hyz
  cases hc : compare x y with
  | lt =>
    have hyx : compare y x = .gt := by
      rw [← h.swap hx hy, hc]
      rfl
    -- were `z` at most `x`, then so would be `y`
    by_cases hlt : compare x z = .lt
    · exact hlt
    · exact absurd hyx (h.trans hy hz hx hyz (h.not_gt_of_not_lt hx hz hlt))
  | eq =>
    cases hc' : compare y z with
    | lt => exact h.lt_of_not_gt_of_lt hx hy hz hxy hc'
    | eq =>
      have hyx : compare y x ≠ .gt := h.not_gt_of_not_lt hx hy (by simp [hc])
      have hzy : compare z y ≠ .gt := h.not_gt_of_not_lt hy hz (by simp [hc'])
      have hlt : compare x z ≠ .lt := h.not_lt_of_not_gt hz hx (h.trans hz hy hx hzy hyx)
      cases hc'' : compare x z <;> simp_all
    | gt => exact absurd hc' hyz
  | gt => exact absurd hc hxy

/-- Comparing by one order and, where that finds no difference, by another. -/
theorem IsOrderOn.then {second : α → α → Ordering} (h : IsOrderOn compare P)
    (h' : IsOrderOn second P) : IsOrderOn (fun x y => (compare x y).then (second x y)) P where
  swap := fun hx hy => by rw [Ordering.swap_then, h.swap hx hy, h'.swap hx hy]
  trans := fun hx hy hz => ((h.chains hx hy hz).then (h'.chains hx hy hz)).ne_gt

/-! ### Images -/

section Map

variable {β : Type} {f : α → β} {image : β → β → Ordering}
  (h : ∀ a b, image (f a) (f b) = compare a b)
include h

theorem insert_map (x : α) (row : List α) :
    insert image (f x) (row.map f) = (insert compare x row).map f := by
  induction row with
  | nil => rfl
  | cons y ys ih =>
    rw [List.map_cons, insert, insert, h, ih]
    split <;> rfl

/-- Elements are sorted as their images are, where these compare alike. -/
theorem sort_map (xs : List α) : sort image (xs.map f) = (sort compare xs).map f := by
  have hfold : ∀ row : List α, (xs.map f).foldl (fun row x => insert image x row) (row.map f) =
      (xs.foldl (fun row x => insert compare x row) row).map f := by
    induction xs with
    | nil => exact fun _ => rfl
    | cons x xs ih =>
      intro row
      rw [List.map_cons, List.foldl_cons, insert_map h, ih]
      rfl
  rw [sort, sort, List.map_reverse]
  exact congrArg List.reverse (hfold [])

end Map

/-- Comparisons that agree on the elements sort them alike. -/
theorem sort_congr {other : α → α → Ordering} {xs : List α}
    (h : ∀ x ∈ xs, ∀ y ∈ xs, compare x y = other x y) : sort compare xs = sort other xs := by
  have hmembers : (fun x y : { x // x ∈ xs } => compare x.1 y.1) = fun x y => other x.1 y.1 := by
    funext x y
    exact h x.1 x.2 y.1 y.2
  have hcompare := sort_map (fun x y : { x // x ∈ xs } => (rfl : compare x.1 y.1 = _)) xs.attach
  have hother := sort_map (fun x y : { x // x ∈ xs } => (rfl : other x.1 y.1 = _)) xs.attach
  rw [List.attach_map_subtype_val] at hcompare hother
  rw [hcompare, hother, hmembers]

/-! ### Insertion -/

/-- In reverse order, as elements are kept while they are placed. -/
def Descending (compare : α → α → Ordering) (row : List α) : Prop :=
  row.Pairwise fun y z => compare z y ≠ .gt

theorem mem_insert {x y : α} {row : List α} :
    y ∈ insert compare x row ↔ y = x ∨ y ∈ row := by
  rw [(insert_perm compare x row).mem_iff, List.mem_cons]

theorem insert_of_not_lt {x : α} {row : List α} (h : ∀ y ∈ row, compare x y ≠ .lt) :
    insert compare x row = x :: row := by
  cases row with
  | nil => rfl
  | cons y ys => rw [insert, if_neg (h y List.mem_cons_self)]

theorem Descending.insert (h : IsOrderOn compare P) {x : α} (hx : P x) {row : List α}
    (hrow : ∀ y ∈ row, P y) (hd : Descending compare row) :
    Descending compare (insert compare x row) := by
  induction row with
  | nil => exact List.pairwise_singleton _ _
  | cons y ys ih =>
    obtain ⟨hy, hys⟩ := List.pairwise_cons.1 hd
    have hpy : P y := hrow y List.mem_cons_self
    have hpys : ∀ z ∈ ys, P z := fun z hz => hrow z (List.mem_cons_of_mem _ hz)
    rw [StableSort.insert]
    split
    · next hlt =>
      refine List.pairwise_cons.2 ⟨fun z hz => ?_, ih hpys hys⟩
      rcases mem_insert.1 hz with rfl | hz
      · rw [hlt]
        simp
      · exact hy z hz
    · next hlt =>
      have hyx : compare y x ≠ .gt := h.not_gt_of_not_lt hx hpy hlt
      refine List.pairwise_cons.2 ⟨fun z hz => ?_, hd⟩
      rcases List.mem_cons.1 hz with rfl | hz
      · exact hyx
      · exact h.trans (hpys z hz) hpy hx (hy z hz) hyx

theorem filter_insert_of_neg {p : α → Bool} {x : α} (hp : p x = false) (row : List α) :
    (insert compare x row).filter p = row.filter p := by
  induction row with
  | nil => simp [insert, hp]
  | cons y ys ih =>
    rw [insert]
    split
    · rw [List.filter_cons, List.filter_cons, ih]
    · rw [List.filter_cons, hp]
      rfl

theorem filter_insert_of_pos (h : IsOrderOn compare P) {p : α → Bool} {x : α} (hp : p x = true)
    (hx : P x) {row : List α} (hrow : ∀ y ∈ row, P y) (hd : Descending compare row) :
    (insert compare x row).filter p = insert compare x (row.filter p) := by
  induction row with
  | nil => simp [insert, hp]
  | cons y ys ih =>
    obtain ⟨hy, hys⟩ := List.pairwise_cons.1 hd
    have hpy : P y := hrow y List.mem_cons_self
    have hpys : ∀ z ∈ ys, P z := fun z hz => hrow z (List.mem_cons_of_mem _ hz)
    rw [insert]
    split
    · next hlt =>
      rw [List.filter_cons, List.filter_cons, ih hpys hys]
      split
      · rw [insert, if_pos hlt]
      · rfl
    · next hlt =>
      -- everything behind `y` is at most `y`, and so not greater than `x`
      have hyx : compare y x ≠ .gt := h.not_gt_of_not_lt hx hpy hlt
      have hall : ∀ z ∈ (y :: ys).filter p, compare x z ≠ .lt := by
        intro z hz
        rcases List.mem_cons.1 (List.mem_filter.1 hz).1 with rfl | hz
        · exact hlt
        · exact h.not_lt_of_not_gt (hpys z hz) hx (h.trans (hpys z hz) hpy hx (hy z hz) hyx)
      rw [insert_of_not_lt hall, List.filter_cons, hp, if_pos rfl]

/-! ### Sorting -/

theorem foldl_insert_descending (h : IsOrderOn compare P) {xs row : List α}
    (hxs : ∀ x ∈ xs, P x) (hrow : ∀ y ∈ row, P y) (hd : Descending compare row) :
    Descending compare (xs.foldl (fun row x => insert compare x row) row) := by
  induction xs generalizing row with
  | nil => exact hd
  | cons x xs ih =>
    have hx : P x := hxs x List.mem_cons_self
    refine ih (fun y hy => hxs y (List.mem_cons_of_mem _ hy)) (fun y hy => ?_) (hd.insert h hx hrow)
    rcases mem_insert.1 hy with rfl | hy
    · exact hx
    · exact hrow y hy

theorem pairwise_sort (h : IsOrderOn compare P) {xs : List α} (hxs : ∀ x ∈ xs, P x) :
    (sort compare xs).Pairwise fun x y => compare x y ≠ .gt :=
  List.pairwise_reverse.2 (foldl_insert_descending h hxs (by simp) List.Pairwise.nil)

theorem IsOrderOn.ne_eq_symm (h : IsOrderOn compare P) {x y : α} (hx : P x) (hy : P y)
    (hne : compare x y ≠ .eq) : compare y x ≠ .eq := by
  rw [← h.swap hx hy]
  intro hs
  cases hc : compare x y <;> simp_all

theorem IsOrderOn.pairwise_ne_eq_of_perm (h : IsOrderOn compare P) {xs ys : List α}
    (hxs : ∀ x ∈ xs, P x) (hp : xs.Perm ys) (hne : xs.Pairwise fun x y => compare x y ≠ .eq) :
    ys.Pairwise fun x y => compare x y ≠ .eq := by
  have hguarded : xs.Pairwise fun x y => P x ∧ P y ∧ compare x y ≠ .eq :=
    hne.imp_of_mem fun hx hy hxy => ⟨hxs _ hx, hxs _ hy, hxy⟩
  have hdistinct : ys.Pairwise fun x y => P x ∧ P y ∧ compare x y ≠ .eq :=
    hp.pairwise hguarded fun ⟨hx, hy, hxy⟩ => ⟨hy, hx, h.ne_eq_symm hx hy hxy⟩
  exact hdistinct.imp fun hxy => hxy.2.2

/-- Elements no two of which are equal are sorted strictly. -/
theorem strictly_sorted_sort (h : IsOrderOn compare P) {xs : List α} (hxs : ∀ x ∈ xs, P x)
    (hne : xs.Pairwise fun x y => compare x y ≠ .eq) :
    (sort compare xs).Pairwise fun x y => compare x y = .lt := by
  have hdistinct := h.pairwise_ne_eq_of_perm hxs (sort_perm compare xs).symm hne
  refine List.Pairwise.imp ?_ ((pairwise_sort h hxs).and hdistinct)
  rintro x y ⟨hgt, heq⟩
  cases hc : compare x y with
  | lt => rfl
  | eq => exact absurd hc heq
  | gt => exact absurd hc hgt

/-- Elements that are sorted strictly stand in one order only. -/
theorem eq_of_strictly_sorted (h : IsOrderOn compare P) {xs ys : List α} (hxs : ∀ x ∈ xs, P x)
    (hp : xs.Perm ys) (hx : xs.Pairwise fun x y => compare x y = .lt)
    (hy : ys.Pairwise fun x y => compare x y = .lt) : xs = ys := by
  refine List.Perm.eq_of_pairwise (fun a b ha hb hab hba => ?_) hx hy hp
  have hs := h.swap (hxs a ha) (hxs b (hp.mem_iff.2 hb))
  rw [hab, hba] at hs
  simp at hs

/-- An arrangement of the elements in which they increase strictly is the sorted one. -/
theorem sort_eq_of_perm (h : IsOrderOn compare P) {xs ys : List α} (hxs : ∀ x ∈ xs, P x)
    (hp : xs.Perm ys) (hy : ys.Pairwise fun x y => compare x y = .lt) : sort compare xs = ys := by
  have hys : ∀ y ∈ ys, P y := fun y hmem => hxs y (hp.mem_iff.2 hmem)
  have hdistinct := h.pairwise_ne_eq_of_perm hys hp.symm (hy.imp fun hlt => by simp [hlt])
  have hsort : ∀ x ∈ sort compare xs, P x := fun x hx => hxs x ((mem_sort compare xs x).1 hx)
  have hsorted := strictly_sorted_sort h hxs hdistinct
  exact eq_of_strictly_sorted h hsort ((sort_perm compare xs).trans hp) hsorted hy

theorem foldl_insert_filter (h : IsOrderOn compare P) (p : α → Bool) {xs row : List α}
    (hxs : ∀ x ∈ xs, P x) (hrow : ∀ y ∈ row, P y) (hd : Descending compare row) :
    (xs.filter p).foldl (fun row x => insert compare x row) (row.filter p) =
      (xs.foldl (fun row x => insert compare x row) row).filter p := by
  induction xs generalizing row with
  | nil => rfl
  | cons x xs ih =>
    have hx : P x := hxs x List.mem_cons_self
    have hrest : ∀ y ∈ xs, P y := fun y hy => hxs y (List.mem_cons_of_mem _ hy)
    have hplaced : ∀ y ∈ insert compare x row, P y := by
      intro y hy
      rcases mem_insert.1 hy with rfl | hy
      · exact hx
      · exact hrow y hy
    rw [List.foldl_cons, ← ih hrest hplaced (hd.insert h hx hrow)]
    cases hp : p x with
    | true =>
      rw [List.filter_cons_of_pos hp, List.foldl_cons, filter_insert_of_pos h hp hx hrow hd]
    | false => rw [List.filter_cons_of_neg (by simp [hp]), filter_insert_of_neg hp]

/-- Sorting what a test selects is selecting from what is sorted. -/
theorem sort_filter (h : IsOrderOn compare P) {xs : List α} (hxs : ∀ x ∈ xs, P x)
    (p : α → Bool) : sort compare (xs.filter p) = (sort compare xs).filter p := by
  have hfold := foldl_insert_filter h p hxs (by simp) (List.Pairwise.nil : Descending compare [])
  rw [sort, sort, List.filter_reverse]
  exact congrArg List.reverse hfold

/-! ### Stability -/

/-- The elements of `xs` in an order of the comparison; those that compare equal stand as in `xs`. -/
structure IsStableOrder (compare : α → α → Ordering) (xs ys : List α) : Prop where
  perm : ys.Perm xs
  ascending : ys.Pairwise fun x y => compare x y ≠ .gt
  stable : ∀ x ∈ xs, ys.filter (compare x · == .eq) = xs.filter (compare x · == .eq)

theorem foldl_insert_of_not_lt {xs row : List α}
    (h : ∀ x ∈ xs, ∀ y ∈ xs ++ row, compare x y ≠ .lt) :
    xs.foldl (fun row x => insert compare x row) row = xs.reverse ++ row := by
  induction xs generalizing row with
  | nil => rfl
  | cons x xs ih =>
    have hx : insert compare x row = x :: row :=
      insert_of_not_lt fun y hy => h x List.mem_cons_self y (List.mem_append_right _ hy)
    have hrest : ∀ z ∈ xs, ∀ y ∈ xs ++ x :: row, compare z y ≠ .lt := by
      intro z hz y hy
      refine h z (List.mem_cons_of_mem _ hz) y ?_
      simpa [or_left_comm] using hy
    rw [List.foldl_cons, hx, ih hrest, List.reverse_cons, List.append_assoc]
    rfl

/-- Where nothing is less than anything, sorting changes nothing. -/
theorem sort_of_not_lt {xs : List α} (h : ∀ x ∈ xs, ∀ y ∈ xs, compare x y ≠ .lt) :
    sort compare xs = xs := by
  have hfold : xs.foldl (fun row x => insert compare x row) [] = xs.reverse ++ [] :=
    foldl_insert_of_not_lt (by simpa using h)
  rw [sort, hfold, List.append_nil, List.reverse_reverse]

theorem IsOrderOn.not_lt_of_eq (h : IsOrderOn compare P) {x y z : α} (hx : P x) (hy : P y)
    (hz : P z) (hxy : compare x y = .eq) (hxz : compare x z = .eq) : compare y z ≠ .lt := by
  have hzx : compare z x ≠ .gt := by
    rw [← h.swap hx hz, hxz]
    decide
  have hzy : compare z y ≠ .gt := h.trans hz hx hy hzx (by rw [hxy]; decide)
  exact h.not_lt_of_not_gt hz hy hzy

theorem isStableOrder_sort (h : IsOrderOn compare P) {xs : List α} (hxs : ∀ x ∈ xs, P x) :
    IsStableOrder compare xs (sort compare xs) := by
  refine ⟨sort_perm compare xs, pairwise_sort h hxs, fun x hx => ?_⟩
  rw [← sort_filter h hxs]
  apply sort_of_not_lt
  intro y hy z hz
  obtain ⟨hy, hxy⟩ := List.mem_filter.1 hy
  obtain ⟨hz, hxz⟩ := List.mem_filter.1 hz
  exact h.not_lt_of_eq (hxs x hx) (hxs y hy) (hxs z hz) (beq_iff_eq.1 hxy) (beq_iff_eq.1 hxz)

theorem IsOrderOn.compare_self (h : IsOrderOn compare P) {x : α} (hx : P x) : compare x x = .eq := by
  have hs := h.swap hx hx
  cases hc : compare x x <;> simp_all

theorem IsOrderOn.flip (h : IsOrderOn compare P) : IsOrderOn (fun x y => compare y x) P :=
  ⟨fun hx hy => h.swap hy hx, fun hx hy hz hxy hyz => h.trans hz hy hx hyz hxy⟩

/-- Sorted lists of the same elements are equal if each class of equal elements stands in both in the
same order. -/
theorem eq_of_filter_eq (h : IsOrderOn compare P) {ys zs : List α} (hP : ∀ y ∈ ys, P y)
    (hp : ys.Perm zs) (hy : ys.Pairwise fun x y => compare x y ≠ .gt)
    (hz : zs.Pairwise fun x y => compare x y ≠ .gt)
    (hclass : ∀ x ∈ ys, ys.filter (compare x · == .eq) = zs.filter (compare x · == .eq)) :
    ys = zs := by
  induction ys generalizing zs with
  | nil => exact hp.nil_eq
  | cons y ys ih =>
    cases zs with
    | nil => exact absurd hp.eq_nil (List.cons_ne_nil y ys)
    | cons z zs =>
      obtain ⟨hyall, hys⟩ := List.pairwise_cons.1 hy
      obtain ⟨hzall, hzs⟩ := List.pairwise_cons.1 hz
      have hPy : P y := hP y List.mem_cons_self
      have hPz : P z := hP z (hp.mem_iff.2 List.mem_cons_self)
      have hself : compare y y = .eq := h.compare_self hPy
      -- both lists begin with a least element, so the comparison takes the two for equal
      have heq : compare y z = .eq := by
        have hyz : compare y z ≠ .gt := by
          rcases List.mem_cons.1 (hp.mem_iff.2 (List.mem_cons_self (a := z))) with rfl | hmem
          · simp [hself]
          · exact hyall z hmem
        have hzy : compare z y ≠ .gt := by
          rcases List.mem_cons.1 (hp.mem_iff.1 (List.mem_cons_self (a := y))) with rfl | hmem
          · simp [hself]
          · exact hzall y hmem
        have hlt := h.not_lt_of_not_gt hPz hPy hzy
        cases hc : compare y z <;> simp_all
      have hhead := hclass y List.mem_cons_self
      rw [List.filter_cons_of_pos (by simp [hself]), List.filter_cons_of_pos (by simp [heq]),
        List.cons.injEq] at hhead
      obtain ⟨rfl, _⟩ := hhead
      have hrest : ys = zs := by
        refine ih (fun x hx => hP x (List.mem_cons_of_mem _ hx)) hp.cons_inv hys hzs fun x hx => ?_
        have hx := hclass x (List.mem_cons_of_mem _ hx)
        rw [List.filter_cons, List.filter_cons] at hx
        split at hx
        · exact (List.cons.inj hx).2
        · exact hx
      rw [hrest]

/-- There is one stable order. -/
theorem IsStableOrder.unique (h : IsOrderOn compare P) {xs ys zs : List α} (hxs : ∀ x ∈ xs, P x)
    (hy : IsStableOrder compare xs ys) (hz : IsStableOrder compare xs zs) : ys = zs := by
  have hmem : ∀ y ∈ ys, y ∈ xs := fun y hmem => hy.perm.mem_iff.1 hmem
  refine eq_of_filter_eq h (fun y hyy => hxs y (hmem y hyy)) (hy.perm.trans hz.perm.symm)
    hy.ascending hz.ascending fun x hx => ?_
  rw [hy.stable x (hmem x hx), hz.stable x (hmem x hx)]

/-- Sorted the other way round elements stand in reverse, but for those that compare equal: these keep
their order. -/
theorem sort_flip (h : IsOrderOn compare P) {xs : List α} (hxs : ∀ x ∈ xs, P x) :
    sort (fun x y => compare y x) xs = (sort compare xs.reverse).reverse := by
  have hreverse : ∀ x ∈ xs.reverse, P x := fun x hx => hxs x (List.mem_reverse.1 hx)
  have hsorted := isStableOrder_sort h hreverse
  refine IsStableOrder.unique h.flip hxs (isStableOrder_sort h.flip hxs) ⟨?_, ?_, fun x hx => ?_⟩
  · exact (List.reverse_perm _).trans (hsorted.perm.trans (List.reverse_perm xs))
  · exact List.pairwise_reverse.2 hsorted.ascending
  · have hclass : ∀ y ∈ xs, (compare y x == .eq) = (compare x y == .eq) := by
      intro y hy
      rw [← h.swap (hxs x hx) (hxs y hy)]
      cases compare x y <;> rfl
    have hstable := hsorted.stable x (List.mem_reverse.2 hx)
    rw [List.filter_reverse] at hstable
    calc (sort compare xs.reverse).reverse.filter (fun y => compare y x == .eq)
        = (sort compare xs.reverse).reverse.filter (compare x · == .eq) := by
          refine List.filter_congr fun y hy => hclass y ?_
          rwa [List.mem_reverse, mem_sort, List.mem_reverse] at hy
      _ = xs.filter (compare x · == .eq) := by
          rw [List.filter_reverse, hstable, List.reverse_reverse]
      _ = xs.filter (fun y => compare y x == .eq) :=
          (List.filter_congr hclass).symm

/-! ### Both sides of an element -/

section Sides

variable {front behind : List α} {x : α}

/-- What is greater than an element of a strictly sorted list stands behind it. -/
theorem filter_behind (h : IsOrderOn compare P) (hP : ∀ y ∈ front ++ x :: behind, P y)
    (hs : (front ++ x :: behind).Pairwise fun y z => compare y z = .lt) :
    (front ++ x :: behind).filter (compare x · == .lt) = behind := by
  obtain ⟨_, hx, hcross⟩ := List.pairwise_append.1 hs
  have hPx : P x := hP x (by simp)
  have hfront : front.filter (compare x · == .lt) = [] := by
    refine List.filter_eq_nil_iff.2 fun y hy => ?_
    have hlt : compare y x = .lt := hcross y hy x List.mem_cons_self
    rw [← h.swap (hP y (List.mem_append_left _ hy)) hPx, hlt]
    decide
  have hbehind : behind.filter (compare x · == .lt) = behind := by
    refine List.filter_eq_self.2 fun y hy => ?_
    rw [(List.pairwise_cons.1 hx).1 y hy]
    decide
  have hself : ¬(compare x x == .lt) = true := by
    rw [beq_iff_eq]
    exact h.irrefl hPx
  rw [List.filter_append, List.filter_cons, if_neg hself, hfront, hbehind, List.nil_append]

/-- What is less than an element of a strictly sorted list stands in front of it. -/
theorem filter_front (h : IsOrderOn compare P) (hP : ∀ y ∈ front ++ x :: behind, P y)
    (hs : (front ++ x :: behind).Pairwise fun y z => compare y z = .lt) :
    (front ++ x :: behind).filter (compare · x == .lt) = front := by
  obtain ⟨_, hx, hcross⟩ := List.pairwise_append.1 hs
  have hPx : P x := hP x (by simp)
  have hfront : front.filter (compare · x == .lt) = front := by
    refine List.filter_eq_self.2 fun y hy => ?_
    rw [hcross y hy x List.mem_cons_self]
    decide
  have hbehind : behind.filter (compare · x == .lt) = [] := by
    refine List.filter_eq_nil_iff.2 fun y hy => ?_
    rw [← h.swap hPx (hP y (by simp [hy])), (List.pairwise_cons.1 hx).1 y hy]
    decide
  have hself : ¬(compare x x == .lt) = true := by
    rw [beq_iff_eq]
    exact h.irrefl hPx
  rw [List.filter_append, List.filter_cons, if_neg hself, hfront, hbehind, List.append_nil]

end Sides

/-- Nothing is greater than the last element of a head of a sorted list exactly if all that is behind
the head equals it. -/
theorem not_lt_of_getLast?_take_iff (h : IsOrderOn compare P) {xs : List α} (hP : ∀ x ∈ xs, P x)
    (hs : xs.Pairwise fun x y => compare x y ≠ .gt) {n : Nat} {last : α}
    (hlast : (xs.take n).getLast? = some last) :
    (∀ x ∈ xs, compare last x ≠ .lt) ↔ ∀ x ∈ xs.drop n, compare last x = .eq := by
  obtain ⟨front, hfront⟩ := List.getLast?_eq_some_iff.1 hlast
  have hsplit : xs = (front ++ [last]) ++ xs.drop n := by rw [← hfront, List.take_append_drop]
  have hPlast : P last := hP last (List.mem_of_mem_take (List.mem_of_getLast? hlast))
  rw [hsplit, List.pairwise_append, List.pairwise_append] at hs
  obtain ⟨⟨_, _, hbefore⟩, _, hacross⟩ := hs
  constructor
  · intro hnone x hx
    have hgt : compare last x ≠ .gt := hacross last (by simp) x hx
    have hlt : compare last x ≠ .lt := hnone x (List.mem_of_mem_drop hx)
    cases hc : compare last x with
    | lt => exact absurd hc hlt
    | eq => rfl
    | gt => exact absurd hc hgt
  · intro hequal x hx
    have hPx := hP x hx
    rw [hsplit, List.mem_append, List.mem_append, List.mem_singleton] at hx
    rcases hx with (hx | rfl) | hx
    · exact h.not_lt_of_not_gt hPx hPlast (hbefore x hx last (List.mem_singleton.2 rfl))
    · exact h.irrefl hPlast
    · rw [hequal x hx]
      decide

end PagedFilter.StableSort
