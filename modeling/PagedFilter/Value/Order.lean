import PagedFilter.Value.Basic

/-!
The order of values. Values of different kinds are ordered by kind, with null first. Integers compare
exactly with each other and as doubles with doubles; lists and maps compare entry by entry, and the
one that ends first is the smaller.
-/

namespace PagedFilter.Value

mutual

def compare : Value → Value → Ordering
  | null, null => .eq
  | bool a, bool b => Ord.compare a b
  | int a, int b => Ord.compare a.toInt b.toInt
  | int a, float b => (Double.ofInt a.toInt).compare b
  | float a, int b => a.compare (Double.ofInt b.toInt)
  | float a, float b => a.compare b
  | str a, str b => Ord.compare a b
  | date a, date b => a.compare b
  | list a, list b => compareList a b
  | map a, map b => compareFields a b
  | a, b => Ord.compare a.kind.rank b.kind.rank

def compareList : List Value → List Value → Ordering
  | [], [] => .eq
  | [], _ :: _ => .lt
  | _ :: _, [] => .gt
  | a :: as, b :: bs => (compare a b).then (compareList as bs)

/-- A field compares by its name first and by its value second. -/
def compareFields : List (String × Value) → List (String × Value) → Ordering
  | [], [] => .eq
  | [], _ :: _ => .lt
  | _ :: _, [] => .gt
  | (j, a) :: as, (k, b) :: bs =>
    ((Ord.compare j k).then (compare a b)).then (compareFields as bs)

end

/-- Equality in the order: the integer one equals the double one. -/
def looseEq (a b : Value) : Bool := compare a b == .eq

mutual

theorem compare_self : (a : Value) → compare a a = .eq
  | null => by simp [compare]
  | bool _ => by simp [compare]
  | int _ => by simp [compare]
  | float x => by simp [compare, Double.compare_self]
  | str _ => by simp [compare]
  | date t => by simp [compare, Instant.compare_self]
  | list as => by simp [compare, compareList_self as]
  | map as => by simp [compare, compareFields_self as]

theorem compareList_self : (as : List Value) → compareList as as = .eq
  | [] => rfl
  | a :: as => by simp [compareList, compare_self a, compareList_self as, Ordering.then]

theorem compareFields_self : (as : List (String × Value)) → compareFields as as = .eq
  | [] => rfl
  | (_, a) :: as => by
    simp [compareFields, compare_self a, compareFields_self as, Ordering.then]

end

theorem looseEq_self (a : Value) : looseEq a a = true := by simp [looseEq, compare_self]

theorem compare_of_ne_kind (a b : Value) (h : a.kind ≠ b.kind) :
    compare a b = Ord.compare a.kind.rank b.kind.rank := by
  cases a <;> cases b <;> first | exact absurd rfl h | simp [compare]

end PagedFilter.Value
