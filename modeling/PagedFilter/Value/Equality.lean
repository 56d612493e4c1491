import PagedFilter.Value.Basic

/-!
Two equalities of values. Structural equality is decidable. Strict equality differs from it on
doubles alone: there it is the numeric one, under which the zeros are equal and what is not a number
differs from itself. An integer is never strictly equal to a double.
-/

namespace PagedFilter.Value

mutual

def same : Value → Value → Bool
  | null, null => true
  | bool a, bool b => decide (a = b)
  | int a, int b => decide (a = b)
  | float a, float b => decide (a = b)
  | str a, str b => decide (a = b)
  | date a, date b => decide (a = b)
  | list a, list b => sameList a b
  | map a, map b => sameFields a b
  | _, _ => false

def sameList : List Value → List Value → Bool
  | [], [] => true
  | a :: as, b :: bs => same a b && sameList as bs
  | _, _ => false

def sameFields : List (String × Value) → List (String × Value) → Bool
  | [], [] => true
  | (j, a) :: as, (k, b) :: bs => decide (j = k) && same a b && sameFields as bs
  | _, _ => false

end

mutual

theorem same_iff : (a b : Value) → (same a b = true ↔ a = b)
  | null, b => by cases b <;> simp [same]
  | bool _, b => by cases b <;> simp [same]
  | int _, b => by cases b <;> simp [same]
  | float _, b => by cases b <;> simp [same]
  | str _, b => by cases b <;> simp [same]
  | date _, b => by cases b <;> simp [same]
  | list as, b => by cases b <;> simp [same, sameList_iff as]
  | map as, b => by cases b <;> simp [same, sameFields_iff as]

theorem sameList_iff : (as bs : List Value) → (sameList as bs = true ↔ as = bs)
  | [], bs => by cases bs <;> simp [sameList]
  | a :: as, bs => by cases bs <;> simp [sameList, same_iff a, sameList_iff as]

theorem sameFields_iff : (as bs : List (String × Value)) → (sameFields as bs = true ↔ as = bs)
  | [], bs => by cases bs <;> simp [sameFields]
  | (j, a) :: as, bs => by
    cases bs with
    | nil => simp [sameFields]
    | cons b bs =>
      obtain ⟨k, b⟩ := b
      simp [sameFields, same_iff a, sameFields_iff as]

end

instance : DecidableEq Value := fun a b => decidable_of_iff _ (same_iff a b)

mutual

/-- Equality by type and content, doubles by their numeric value. -/
def strictEq : Value → Value → Bool
  | null, null => true
  | bool a, bool b => decide (a = b)
  | int a, int b => decide (a = b)
  | float a, float b => a.numericEq b
  | str a, str b => decide (a = b)
  | date a, date b => decide (a = b)
  | list a, list b => strictEqList a b
  | map a, map b => strictEqFields a b
  | _, _ => false

def strictEqList : List Value → List Value → Bool
  | [], [] => true
  | a :: as, b :: bs => strictEq a b && strictEqList as bs
  | _, _ => false

def strictEqFields : List (String × Value) → List (String × Value) → Bool
  | [], [] => true
  | (j, a) :: as, (k, b) :: bs => decide (j = k) && strictEq a b && strictEqFields as bs
  | _, _ => false

end

example : strictEq (float ⟨0x7FF8000000000000⟩)
    (float ⟨0x7FF8000000000000⟩) = false := by decide

theorem strictEq_int_float (n : Int64) (x : Double) : strictEq (int n) (float x) = false := rfl

end PagedFilter.Value
