import PagedFilter.Calendar.Reader
import PagedFilter.Value.Equality

/-!
Dates in filters. Strings that read as a date-time become instants, at every depth; all else stays.
-/

namespace PagedFilter.Filter

mutual

def castDates : Value → Value
  | .str s =>
    match Instant.read? s with
    | some t => .date t
    | none => .str s
  | .list items => .list (castDatesItems items)
  | .map fields => .map (castDatesFields fields)
  | v => v

def castDatesItems : List Value → List Value
  | [] => []
  | v :: rest => castDates v :: castDatesItems rest

def castDatesFields : List (String × Value) → List (String × Value)
  | [] => []
  | (k, v) :: rest => (k, castDates v) :: castDatesFields rest

end

theorem castDatesItems_eq_map (items : List Value) : castDatesItems items = items.map castDates := by
  induction items with
  | nil => rfl
  | cons v rest ih => simp [castDatesItems, ih]

theorem castDatesFields_eq_map (fields : List (String × Value)) :
    castDatesFields fields = fields.map fun f => (f.1, castDates f.2) := by
  induction fields with
  | nil => rfl
  | cons f rest ih => simp [castDatesFields, ih]

theorem castDates_isList (v : Value) : (castDates v).isList = v.isList := by
  cases v with
  | str s =>
    simp only [castDates]
    split <;> rfl
  | _ => rfl

mutual

theorem castDates_castDates : (v : Value) → castDates (castDates v) = castDates v
  | .str s => by
    cases h : Instant.read? s with
    | none => simp [castDates, h]
    | some t => simp [castDates, h]
  | .list items => by simp [castDates, castDatesItems_castDatesItems items]
  | .map fields => by simp [castDates, castDatesFields_castDatesFields fields]
  | .null => rfl
  | .bool _ => rfl
  | .int _ => rfl
  | .float _ => rfl
  | .date _ => rfl

theorem castDatesItems_castDatesItems :
    (items : List Value) → castDatesItems (castDatesItems items) = castDatesItems items
  | [] => rfl
  | v :: rest => by
    simp [castDatesItems, castDates_castDates v, castDatesItems_castDatesItems rest]

theorem castDatesFields_castDatesFields : (fields : List (String × Value)) →
    castDatesFields (castDatesFields fields) = castDatesFields fields
  | [] => rfl
  | (_, v) :: rest => by
    simp [castDatesFields, castDates_castDates v, castDatesFields_castDatesFields rest]

end

mutual

/-- A value that reading dates leaves strictly equal has no dates to read. -/
theorem castDates_eq_self_of_strictEq :
    (v : Value) → Value.strictEq (castDates v) v = true → castDates v = v
  | .str s, h => by
    rw [castDates] at h ⊢
    cases hread : Instant.read? s with
    | none => rfl
    | some t => simp [hread, Value.strictEq] at h
  | .list items, h => by
    rw [castDates, Value.strictEq] at h
    rw [castDates, castDatesItems_eq_self_of_strictEq items h]
  | .map fields, h => by
    rw [castDates, Value.strictEq] at h
    rw [castDates, castDatesFields_eq_self_of_strictEq fields h]
  | .null, _ => rfl
  | .bool _, _ => rfl
  | .int _, _ => rfl
  | .float _, _ => rfl
  | .date _, _ => rfl

theorem castDatesItems_eq_self_of_strictEq : (items : List Value) →
    Value.strictEqList (castDatesItems items) items = true → castDatesItems items = items
  | [], _ => rfl
  | v :: rest, h => by
    rw [castDatesItems, Value.strictEqList, Bool.and_eq_true] at h
    rw [castDatesItems, castDates_eq_self_of_strictEq v h.1,
      castDatesItems_eq_self_of_strictEq rest h.2]

theorem castDatesFields_eq_self_of_strictEq : (fields : List (String × Value)) →
    Value.strictEqFields (castDatesFields fields) fields = true → castDatesFields fields = fields
  | [], _ => rfl
  | (k, v) :: rest, h => by
    rw [castDatesFields, Value.strictEqFields, Bool.and_eq_true, Bool.and_eq_true] at h
    rw [castDatesFields, castDates_eq_self_of_strictEq v h.1.2,
      castDatesFields_eq_self_of_strictEq rest h.2]

end

end PagedFilter.Filter
