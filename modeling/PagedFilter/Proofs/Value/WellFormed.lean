import PagedFilter.Value.Basic

/-!
Deciding that the names of every map within a value are in order.
-/

namespace PagedFilter.Value

instance {α : Type} (fs : Fields α) : Decidable (Fields.Sorted fs) :=
  inferInstanceAs (Decidable (List.Pairwise _ fs))

mutual

def decideWellFormed : (v : Value) → Decidable (WellFormed v)
  | list items => decideWellFormedList items
  | map fields => @instDecidableAnd _ _ _ (decideWellFormedFields fields)
  | null | bool _ | int _ | float _ | str _ | date _ => .isTrue trivial

def decideWellFormedList : (items : List Value) → Decidable (WellFormedList items)
  | [] => .isTrue trivial
  | v :: rest => @instDecidableAnd _ _ (decideWellFormed v) (decideWellFormedList rest)

def decideWellFormedFields : (fields : List (String × Value)) → Decidable (WellFormedFields fields)
  | [] => .isTrue trivial
  | (_, v) :: rest => @instDecidableAnd _ _ (decideWellFormed v) (decideWellFormedFields rest)

end

instance (v : Value) : Decidable (WellFormed v) := decideWellFormed v

end PagedFilter.Value
