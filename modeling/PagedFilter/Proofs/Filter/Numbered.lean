import PagedFilter.Proofs.Fields
import PagedFilter.Proofs.Filter.Canonical
import PagedFilter.Proofs.Filter.Indices
import PagedFilter.Proofs.Value.WellFormed

/-!
Maps that stand for lists. The entries are read in the order of the numbers that their indices write,
with gaps, zeros in front and several indices of one number: none is lost, and there is one order only.
-/

namespace PagedFilter.Filter

/-- An index comes before those of greater numbers, and before those of its own number with a greater
text. -/
def ComesBefore (a b : String) : Prop := number a < number b ∨ number a = number b ∧ a < b

instance (a b : String) : Decidable (ComesBefore a b) := inferInstanceAs (Decidable (_ ∨ _))

section Indices

variable {a b c : String} (ha : isIndex a = true) (hb : isIndex b = true)
include ha hb

theorem compareIndices_eq_lt_iff : compareIndices a b = .lt ↔ ComesBefore a b := by
  rw [compareIndices_eq ha hb, Ordering.then_eq_lt, Nat.compare_eq_lt, Nat.compare_eq_eq,
    ComesBefore]
  have htext : compare a b = .lt ↔ a < b := compareOfLessAndEq_eq_lt
  rw [htext]

theorem compareIndices_eq_gt_iff : compareIndices a b = .gt ↔ ComesBefore b a := by
  rw [← compareIndices_eq_lt_iff hb ha]
  exact Std.OrientedCmp.gt_iff_lt

/-- Zeros in front make another index, also of the number zero. -/
theorem compareIndices_eq_eq_iff : compareIndices a b = .eq ↔ a = b := by
  constructor
  · intro h
    rw [compareIndices_eq ha hb, Ordering.then_eq_eq] at h
    exact Std.LawfulEqCmp.eq_of_compare h.2
  · rintro rfl
    exact Std.ReflCmp.compare_self

theorem comesBefore_trichotomy :
    (ComesBefore a b ∨ a = b ∨ ComesBefore b a) ∧ ¬(ComesBefore a b ∧ a = b) ∧
      ¬(ComesBefore a b ∧ ComesBefore b a) ∧ ¬(a = b ∧ ComesBefore b a) := by
  rw [← compareIndices_eq_lt_iff ha hb, ← compareIndices_eq_gt_iff ha hb,
    ← compareIndices_eq_eq_iff ha hb]
  cases compareIndices a b <;> decide

omit ha hb in
theorem ComesBefore.trans (hab : ComesBefore a b) (hbc : ComesBefore b c) : ComesBefore a c := by
  rcases hab with hab | ⟨hab, htext⟩
  · rcases hbc with hbc | ⟨hbc, _⟩
    · exact .inl (Nat.lt_trans hab hbc)
    · exact .inl (hbc ▸ hab)
  · rcases hbc with hbc | ⟨hbc, htext'⟩
    · exact .inl (hab ▸ hbc)
    · exact .inr ⟨hab.trans hbc, String.lt_trans htext htext'⟩

end Indices

/-- The entries of a map in the order of their indices. -/
def InNumericOrder (entries : Fields Value) : Prop :=
  entries.Pairwise fun a b => ComesBefore a.1 b.1

instance (entries : Fields Value) : Decidable (InNumericOrder entries) :=
  inferInstanceAs (Decidable (List.Pairwise _ entries))

section Entries

variable {fields : Fields Value} (hsorted : Fields.Sorted fields)
  (hindex : ∀ e ∈ fields, isIndex e.1 = true)
include hsorted hindex

/-- No two entries of a map have one index. -/
theorem inNumericOrder_sort :
    InNumericOrder (StableSort.sort (fun a b => compareIndices a.1 b.1) fields) := by
  have hdistinct : fields.Pairwise fun a b => compareIndices a.1 b.1 ≠ .eq := by
    refine hsorted.imp_of_mem fun {a b} ha hb hlt heq => ?_
    rw [compareIndices_eq_eq_iff (hindex a ha) (hindex b hb)] at heq
    rw [heq] at hlt
    exact String.lt_irrefl _ hlt
  have hstrict := StableSort.strictly_sorted_sort isOrderOn_compareIndices (fun _ _ => trivial)
    hdistinct
  refine hstrict.imp_of_mem fun {a b} ha hb hlt => ?_
  have hmem := StableSort.mem_sort (fun a b : String × Value => compareIndices a.1 b.1) fields
  exact (compareIndices_eq_lt_iff (hindex a ((hmem a).1 ha)) (hindex b ((hmem b).1 hb))).1 hlt

omit hsorted in
theorem sort_eq_of_inNumericOrder {entries : Fields Value} (hperm : entries.Perm fields)
    (horder : InNumericOrder entries) :
    StableSort.sort (fun a b => compareIndices a.1 b.1) fields = entries := by
  apply StableSort.sort_eq_of_perm isOrderOn_compareIndices (fun _ _ => trivial) hperm.symm
  refine horder.imp_of_mem fun {a b} ha hb hbefore => ?_
  exact (compareIndices_eq_lt_iff (hindex a (hperm.mem_iff.1 ha))
    (hindex b (hperm.mem_iff.1 hb))).2 hbefore

end Entries

/-- A map whose names are indices is read as the list of its entries in numeric order, each of them
once, and there is one such order. The comparison that finds it is the linear order of indices by number
and then by text. -/
theorem indexed_map_reads_in_numeric_order :
    (∀ fields : Fields Value, Fields.Sorted fields → fields ≠ [] →
      (∀ e ∈ fields, isIndex e.1 = true) →
        ∃ entries : Fields Value, (entries.Perm fields ∧ InNumericOrder entries) ∧
          (∀ other : Fields Value, other.Perm fields → InNumericOrder other → other = entries) ∧
            normalize (.map fields) = .list (entries.map fun e => normalize e.2)) ∧
      (∀ a b : String, isIndex a = true → isIndex b = true →
        ((compareIndices a b = .lt ↔ ComesBefore a b) ∧ (compareIndices a b = .eq ↔ a = b) ∧
          (compareIndices a b = .gt ↔ ComesBefore b a)) ∧
        (ComesBefore a b ∨ a = b ∨ ComesBefore b a) ∧ ¬(ComesBefore a b ∧ a = b) ∧
          ¬(ComesBefore a b ∧ ComesBefore b a) ∧ ¬(a = b ∧ ComesBefore b a)) ∧
      ∀ a b c : String, ComesBefore a b → ComesBefore b c → ComesBefore a c := by
  refine ⟨fun fields hsorted hne hindex => ?_, fun a b ha hb => ?_, fun a b c => ComesBefore.trans⟩
  · refine ⟨_, ⟨StableSort.sort_perm _ fields, inNumericOrder_sort hsorted hindex⟩,
      fun other hperm horder => (sort_eq_of_inNumericOrder hindex hperm horder).symm, ?_⟩
    rw [normalize_indexKeyed (isIndexKeyed_iff.2 ⟨hne, hindex⟩), inIndexOrder, List.map_map]
    rfl
  · exact ⟨⟨compareIndices_eq_lt_iff ha hb, compareIndices_eq_eq_iff ha hb,
      compareIndices_eq_gt_iff ha hb⟩, comesBefore_trichotomy ha hb⟩

/-- Two indices of zero, two of seven, a gap, and a number beyond 64 bits. -/
theorem indices_with_zeros_in_order :
    let fields : Fields Value := [("0", .int 1), ("00", .int 2), ("007", .int 3), ("10", .int 4),
      ("18446744073709551616", .int 5), ("7", .int 6), ("8", .map [("in", .int 7)])]
    Fields.Sorted fields ∧ fields ≠ [] ∧ (∀ e ∈ fields, isIndex e.1 = true) ∧
      normalize (.map fields) = .list [.int 1, .int 2, .int 3, .int 6,
        .map [("in", .list [.int 7])], .int 4, .int 5] := by
  intro fields
  have hsorted : Fields.Sorted fields := by decide +kernel
  have hindex : ∀ e ∈ fields, isIndex e.1 = true := by decide +kernel
  have hne : fields ≠ [] := List.cons_ne_nil _ _
  obtain ⟨entries, _, hunique, hread⟩ :=
    indexed_map_reads_in_numeric_order.1 fields hsorted hne hindex
  have horder := hunique [("0", .int 1), ("00", .int 2), ("007", .int 3), ("7", .int 6),
    ("8", .map [("in", .int 7)]), ("10", .int 4), ("18446744073709551616", .int 5)]
    (by decide +kernel) (by decide +kernel)
  rw [← horder] at hread
  exact ⟨hsorted, hne, hindex, hread⟩

end PagedFilter.Filter
