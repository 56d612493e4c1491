/-!
Fields of a map: pairs of a name and a value with the names in increasing order, each once. Names are
ordered by code points. Looking up after a write finds the written value and nothing else changed.
-/

namespace PagedFilter

abbrev Fields (α : Type) := List (String × α)

namespace Fields

variable {α β : Type}

/-- The names increase from field to field. -/
def Sorted (fs : Fields α) : Prop := fs.Pairwise fun a b => a.1 < b.1

def find? : Fields α → String → Option α
  | [], _ => none
  | (j, v) :: rest, k => if j = k then some v else find? rest k

/-- Writes a value under a name, in place of the one that was there. -/
def put (k : String) (v : α) : Fields α → Fields α
  | [] => [(k, v)]
  | (j, w) :: rest =>
    if k < j then (k, v) :: (j, w) :: rest
    else if k = j then (k, v) :: rest
    else (j, w) :: put k v rest

/-- Writes a list of entries one after the other, so that the last one of a name stays. -/
def ofList (entries : List (String × α)) : Fields α :=
  entries.foldl (fun fs e => put e.1 e.2 fs) []

def names (fs : Fields α) : List String := fs.map (·.1)

theorem find?_put_self (k : String) (v : α) (fs : Fields α) : find? (put k v fs) k = some v := by
  induction fs with
  | nil => simp [put, find?]
  | cons f rest ih =>
    obtain ⟨j, w⟩ := f
    simp only [put]
    split
    · simp [find?]
    · split
      · simp [find?]
      · next h => simp [find?, Ne.symm h, ih]

theorem find?_put_of_ne {k j : String} (h : j ≠ k) (v : α) (fs : Fields α) :
    find? (put k v fs) j = find? fs j := by
  induction fs with
  | nil => simp [put, find?, Ne.symm h]
  | cons f rest ih =>
    obtain ⟨i, w⟩ := f
    simp only [put]
    split
    · simp [find?, Ne.symm h]
    · split
      · next e => subst e; simp [find?, Ne.symm h]
      · simp [find?, ih]

theorem mem_put {k : String} {v : α} {fs : Fields α} {e : String × α} (h : e ∈ put k v fs) :
    e = (k, v) ∨ e ∈ fs := by
  induction fs with
  | nil => simpa [put] using h
  | cons f rest ih =>
    obtain ⟨j, w⟩ := f
    simp only [put] at h
    split at h
    · simpa using h
    · split at h
      · simp only [List.mem_cons] at h ⊢
        exact h.elim .inl fun m => .inr (.inr m)
      · simp only [List.mem_cons] at h ⊢
        exact h.elim (fun m => .inr (.inl m)) fun m => (ih m).elim .inl fun q => .inr (.inr q)

theorem lt_of_not_lt_of_ne {j k : String} (h : ¬k < j) (hne : k ≠ j) : j < k := by
  have hle : j ≤ k := String.not_lt.1 h
  exact Decidable.byContradiction fun hn => hne (String.le_antisymm (String.not_lt.1 hn) hle)

theorem Sorted.put {fs : Fields α} (h : Sorted fs) (k : String) (v : α) :
    Sorted (Fields.put k v fs) := by
  induction fs with
  | nil => simp [Fields.put, Sorted]
  | cons f rest ih =>
    obtain ⟨j, w⟩ := f
    have hp := List.pairwise_cons.1 h
    simp only [Fields.put]
    split
    · next hlt =>
      refine List.pairwise_cons.2 ⟨fun e he => ?_, h⟩
      rcases List.mem_cons.1 he with rfl | he
      · exact hlt
      · exact String.lt_trans hlt (hp.1 e he)
    · next hlt =>
      split
      · next e => subst e; exact List.pairwise_cons.2 ⟨hp.1, hp.2⟩
      · next hne =>
        refine List.pairwise_cons.2 ⟨fun e he => ?_, ih hp.2⟩
        rcases mem_put he with rfl | he
        · exact lt_of_not_lt_of_ne hlt hne
        · exact hp.1 e he

theorem Sorted.foldl_put {fs : Fields α} (h : Sorted fs) (entries : List (String × α)) :
    Sorted (entries.foldl (fun fs e => Fields.put e.1 e.2 fs) fs) := by
  induction entries generalizing fs with
  | nil => exact h
  | cons e rest ih => exact ih (h.put e.1 e.2)

theorem sorted_ofList (entries : List (String × α)) : Sorted (ofList entries) :=
  Sorted.foldl_put List.Pairwise.nil entries

end Fields

end PagedFilter
