/-!
Stable sorting by insertion. Each element goes in behind those already placed and moves forward past
the ones it is less than, so elements that compare equal keep their order.
-/

namespace PagedFilter.StableSort

variable {α : Type}

/-- Places an element in a row kept in reverse order. -/
def insert (compare : α → α → Ordering) (x : α) : List α → List α
  | [] => [x]
  | y :: ys => if compare x y = .lt then y :: insert compare x ys else x :: y :: ys

/-- The elements in increasing order. -/
def sort (compare : α → α → Ordering) (xs : List α) : List α :=
  (xs.foldl (fun row x => insert compare x row) []).reverse

theorem insert_perm (compare : α → α → Ordering) (x : α) (ys : List α) :
    (insert compare x ys).Perm (x :: ys) := by
  induction ys with
  | nil => exact .refl _
  | cons y ys ih =>
    simp only [insert]
    split
    · exact (ih.cons y).trans (.swap x y ys)
    · exact .refl _

theorem foldl_insert_perm (compare : α → α → Ordering) (xs row : List α) :
    (xs.foldl (fun row x => insert compare x row) row).Perm (xs ++ row) := by
  induction xs generalizing row with
  | nil => exact .refl _
  | cons x xs ih =>
    refine (ih (insert compare x row)).trans ?_
    exact ((insert_perm compare x row).append_left xs).trans List.perm_middle

/-- Sorting neither loses nor adds an element. -/
theorem sort_perm (compare : α → α → Ordering) (xs : List α) : (sort compare xs).Perm xs := by
  refine (List.reverse_perm _).trans ?_
  simpa using foldl_insert_perm compare xs []

theorem length_sort (compare : α → α → Ordering) (xs : List α) :
    (sort compare xs).length = xs.length := (sort_perm compare xs).length_eq

theorem mem_sort (compare : α → α → Ordering) (xs : List α) (x : α) :
    x ∈ sort compare xs ↔ x ∈ xs := (sort_perm compare xs).mem_iff

/-- Where nothing is less than anything, the order stays. -/
theorem sort_of_eq (xs : List α) : sort (fun _ _ => .eq) xs = xs := by
  suffices h : ∀ row, xs.foldl (fun row x => insert (fun _ _ => .eq) x row) row =
      xs.reverse ++ row by
    simp [sort, h]
  induction xs with
  | nil => simp
  | cons x xs ih =>
    intro row
    have hx : insert (fun _ _ => .eq) x row = x :: row := by cases row <;> simp [insert]
    simp [hx, ih]

end PagedFilter.StableSort
