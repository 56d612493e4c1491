import PagedFilter.Proofs.Value.Order
import PagedFilter.Value.Equality

/-!
Values without doubles in a linear order. Equality in the order and strict equality are both
equality there, so that of two different values exactly one is less than the other.
-/

namespace PagedFilter.Value

mutual

/-- Only doubles keep strict equality apart from equality. -/
theorem strictEq_iff : {a b : Value} → a.IsFloatFree → (strictEq a b = true ↔ a = b)
  | null, b, _ => by cases b <;> simp [strictEq]
  | bool _, b, _ => by cases b <;> simp [strictEq]
  | int _, b, _ => by cases b <;> simp [strictEq]
  | str _, b, _ => by cases b <;> simp [strictEq]
  | date _, b, _ => by cases b <;> simp [strictEq]
  | list _, b, h => by cases b <;> simp [strictEq, strictEqList_iff h]
  | map _, b, h => by cases b <;> simp [strictEq, strictEqFields_iff h]

theorem strictEqList_iff : {as bs : List Value} → AreFloatFree as →
    (strictEqList as bs = true ↔ as = bs)
  | [], bs, _ => by cases bs <;> simp [strictEqList]
  | _ :: _, bs, h => by
    cases bs <;> simp [strictEqList, strictEq_iff h.1, strictEqList_iff h.2]

theorem strictEqFields_iff : {as bs : List (String × Value)} → HoldFloatFree as →
    (strictEqFields as bs = true ↔ as = bs)
  | [], bs, _ => by cases bs <;> simp [strictEqFields]
  | (_, _) :: _, bs, h => by
    cases bs with
    | nil => simp [strictEqFields]
    | cons b bs =>
      obtain ⟨k, b⟩ := b
      simp [strictEqFields, strictEq_iff h.1, strictEqFields_iff h.2, and_assoc]

end

section FloatFree

variable {a b c : Value} (ha : a.IsFloatFree) (hb : b.IsFloatFree)
include ha hb

theorem compare_lt_trans (hc : c.IsFloatFree) (hab : compare a b = .lt)
    (hbc : compare b c = .lt) : compare a c = .lt := by
  have hchain := isOrderOn_compare.chains ha hb hc (by simp [hab]) (by simp [hbc])
  rw [hchain, hab]
  rfl

/-- Of two values one is less, or they are equal, and no two of these hold. -/
theorem compare_trichotomy :
    (compare a b = .lt ∨ a = b ∨ compare b a = .lt) ∧ ¬(compare a b = .lt ∧ a = b) ∧
      ¬(compare a b = .lt ∧ compare b a = .lt) ∧ ¬(a = b ∧ compare b a = .lt) := by
  rw [← compare_eq_iff ha hb, ← compare_swap a b]
  cases compare a b <;> decide

end FloatFree

/-- On values without doubles the order is linear, and equality in it is equality. -/
theorem linear_on_floatFree {a b c : Value} (ha : a.IsFloatFree) (hb : b.IsFloatFree)
    (hc : c.IsFloatFree) :
    (compare a b = .eq ↔ a = b) ∧ (strictEq a b = true ↔ a = b) ∧
      (compare a b = .lt → compare b c = .lt → compare a c = .lt) ∧
      ((compare a b = .lt ∨ a = b ∨ compare b a = .lt) ∧ ¬(compare a b = .lt ∧ a = b) ∧
        ¬(compare a b = .lt ∧ compare b a = .lt) ∧ ¬(a = b ∧ compare b a = .lt)) ∧
      compare b a = (compare a b).swap :=
  ⟨compare_eq_iff ha hb, strictEq_iff ha, compare_lt_trans ha hb hc, compare_trichotomy ha hb,
    (compare_swap a b).symm⟩

theorem maps_of_lists_and_dates_in_order :
    let a : Value := .map [("k", .list [.int 1]), ("l", .null)]
    let b : Value := .map [("k", .list [.int 1, .null])]
    let c : Value := .map [("k", .list [.int 1, .date ⟨0, 5⟩])]
    (a.IsFloatFree ∧ b.IsFloatFree ∧ c.IsFloatFree) ∧ compare a b = .lt ∧ compare b c = .lt ∧
      compare a c = .lt := by
  intro a b c
  have ha : a.IsFloatFree := by decide
  have hb : b.IsFloatFree := by decide
  have hc : c.IsFloatFree := by decide
  have hab : compare a b = .lt := by decide +kernel
  have hbc : compare b c = .lt := by decide +kernel
  exact ⟨⟨ha, hb, hc⟩, hab, hbc, (linear_on_floatFree ha hb hc).2.2.1 hab hbc⟩

end PagedFilter.Value
