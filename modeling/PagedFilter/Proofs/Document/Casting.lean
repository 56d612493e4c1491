import PagedFilter.Filter.Dates
import PagedFilter.Proofs.Calendar.Characters
import PagedFilter.Proofs.Document.Faults

/-!
What reading date-times does to the faults of a document filter. A filter keeps its parts, each with
date-times for the strings that read as such. That makes a fault of a pattern that reads as a
date-time, and of nothing else.
-/

namespace PagedFilter.Document

open PagedFilter.Filter
  (castDates castDatesFields castDatesItems castDatesFields_eq_map castDatesItems_eq_map)

/-! ### Values -/

theorem castDates_isMap (v : Value) : (castDates v).isMap = v.isMap := by
  cases v with
  | str s =>
    simp only [castDates]
    split <;> rfl
  | _ => rfl

theorem castDates_map (fields : Fields Value) :
    castDates (.map fields) = .map (fields.map fun f => (f.1, castDates f.2)) := by
  rw [castDates, castDatesFields_eq_map]

theorem castDates_list (items : List Value) :
    castDates (.list items) = .list (items.map castDates) := by
  rw [castDates, castDatesItems_eq_map]

section Keys

variable (f : Value → Value) (fields : Fields Value)

theorem holdsOperators_map :
    holdsOperators (fields.map fun e => (e.1, f e.2)) = holdsOperators fields := by
  rw [holdsOperators, holdsOperators, List.isEmpty_map, List.all_map]
  rfl

theorem find?_map (k : String) :
    Fields.find? (fields.map fun e => (e.1, f e.2)) k = (Fields.find? fields k).map f := by
  induction fields with
  | nil => rfl
  | cons e rest ih =>
    rw [List.map_cons, Fields.find?, Fields.find?, ih]
    split <;> rfl

end Keys

/-! ### Parts -/

/-- A part with date-times for the strings that read as such. -/
def Part.castDates : Part → Part
  | other v => .other (Filter.castDates v)
  | group key => .group key
  | clause key => .clause key
  | operator options op operand =>
    .operator (options.map Filter.castDates) op (Filter.castDates operand)

/-- Wherever a value stands in a filter, reading date-times in it is doing so in its parts. -/
structure CastsByParts (v : Value) : Prop where
  filter : parts (castDates v) = (parts v).map Part.castDates
  clause : ∀ key, partsOfClause key (castDates v) = (partsOfClause key v).map Part.castDates
  operator : ∀ options op, partsOfOperator (options.map castDates) op (castDates v) =
    (partsOfOperator options op v).map Part.castDates

theorem parts_castDates_of_not_isMap {v : Value} (hm : v.isMap = false) :
    parts (castDates v) = (parts v).map Part.castDates := by
  rw [parts_of_not_isMap hm, parts_of_not_isMap ((castDates_isMap v).trans hm)]
  rfl

theorem partsOfOperator_castDates_of_not_isMap {v : Value} (hm : v.isMap = false)
    (options : Option Value) (op : String) :
    partsOfOperator (options.map castDates) op (castDates v) =
      (partsOfOperator options op v).map Part.castDates := by
  rw [partsOfOperator_of_not_isMap hm, partsOfOperator_of_not_isMap ((castDates_isMap v).trans hm)]
  split <;> rfl

theorem castsByParts_leaf {v : Value} (hl : v.isList = false) (hm : v.isMap = false) :
    CastsByParts v := by
  refine ⟨parts_castDates_of_not_isMap hm, fun key => ?_, partsOfOperator_castDates_of_not_isMap hm⟩
  rw [partsOfClause_leaf hl hm,
    partsOfClause_leaf ((Filter.castDates_isList v).trans hl) ((castDates_isMap v).trans hm)]
  split
  · rfl
  · split <;> rfl

theorem castsByParts_list {items : List Value} (h : ∀ v ∈ items, CastsByParts v) :
    CastsByParts (.list items) := by
  refine ⟨parts_castDates_of_not_isMap rfl, fun key => ?_,
    partsOfOperator_castDates_of_not_isMap rfl⟩
  have hmembers : partsOfMembers (items.map castDates) =
      (partsOfMembers items).map Part.castDates := by
    induction items with
    | nil => rfl
    | cons v rest ih =>
      rw [List.map_cons, partsOfMembers, partsOfMembers, List.map_append,
        (h v List.mem_cons_self).filter, ih fun w hw => h w (List.mem_cons_of_mem v hw)]
  rw [castDates_list, partsOfClause, partsOfClause, hmembers]
  split
  · rfl
  · split <;> rfl

section Fields

variable {fields : Fields Value} (h : ∀ f ∈ fields, CastsByParts f.2)
include h

theorem partsOfClauses_castDates : partsOfClauses (fields.map fun f => (f.1, castDates f.2)) =
    (partsOfClauses fields).map Part.castDates := by
  induction fields with
  | nil => rfl
  | cons f rest ih =>
    rw [List.map_cons, partsOfClauses, partsOfClauses, List.map_append,
      (h f List.mem_cons_self).clause, ih fun g hg => h g (List.mem_cons_of_mem f hg)]

theorem partsOfOperators_castDates (options : Option Value) :
    partsOfOperators (options.map castDates) (fields.map fun f => (f.1, castDates f.2)) =
      (partsOfOperators options fields).map Part.castDates := by
  induction fields with
  | nil => rfl
  | cons f rest ih =>
    rw [List.map_cons, partsOfOperators, partsOfOperators, List.map_append,
      (h f List.mem_cons_self).operator, ih fun g hg => h g (List.mem_cons_of_mem f hg)]

theorem castsByParts_map : CastsByParts (.map fields) := by
  constructor
  · rw [castDates_map, parts, parts]
    exact partsOfClauses_castDates h
  · intro key
    rw [castDates_map, partsOfClause, partsOfClause, holdsOperators_map, find?_map,
      partsOfOperators_castDates h]
    split
    · rfl
    · split
      · rfl
      · split <;> rfl
  · intro options op
    rw [castDates_map, partsOfOperator, partsOfOperator, holdsOperators_map, find?_map,
      partsOfOperators_castDates h, partsOfClauses_castDates h]
    split
    · split <;> rfl
    · rw [← castDates_map]
      rfl

end Fields

/-- The parts of a filter with date-times are the parts of the filter, with date-times. -/
theorem parts_castDates (filter : Value) :
    parts (castDates filter) = (parts filter).map Part.castDates :=
  (Value.inductionOn (fun _ => castsByParts_leaf) (fun _ => castsByParts_list)
    (fun _ => castsByParts_map) filter : CastsByParts filter).filter

/-! ### Faults -/

/-- No date-time holds a letter of pattern options, so reading it changes none. -/
theorem modeOf_castDates (options : Option Value) :
    modeOf (options.map castDates) = modeOf options := by
  rcases options with _ | v
  · rfl
  · cases v with
    | str s =>
      rw [Option.map_some, castDates]
      cases hread : Instant.read? s with
      | none => rfl
      | some t =>
        have hnone : ∀ c, Instant.isDateChar c = false → s.toList.contains c = false := by
          intro c hc
          rw [← Bool.not_eq_true, List.contains_iff_mem]
          intro hmem
          have hall := List.all_eq_true.1 (Instant.all_isDateChar_of_read? hread) c hmem
          rw [hc] at hall
          cases hall
        simp only [modeOf, Option.bind_some, Value.str?, Option.getD_some, Option.getD_none,
          hnone _ (by decide : Instant.isDateChar 'i' = false),
          hnone _ (by decide : Instant.isDateChar 'm' = false),
          hnone _ (by decide : Instant.isDateChar 's' = false),
          hnone _ (by decide : Instant.isDateChar 'x' = false)]
        rfl
    | _ => rfl

/-- Whether a part is a pattern that reads as a date-time. -/
def Part.isDatedPattern : Part → Bool
  | operator _ op (.str s) => op == "$regex" && (Instant.read? s).isSome
  | _ => false

theorem Part.fault?_operator_eq_some_iff {options : Option Value} {op : String} {operand : Value}
    {e : StoreError} : (operator options op operand).fault? = some e ↔
      meets options none op operand = .error e := by
  rw [fault?]
  cases meets options none op operand <;> simp

/-- A date is no pattern. -/
theorem Part.fault?_castDates_of_isDatedPattern {p : Part} (h : p.isDatedPattern = true) :
    p.castDates.fault? = some (.unsupported .patternType) := by
  cases p with
  | operator options op operand =>
    cases operand with
    | str s =>
      rw [isDatedPattern, Bool.and_eq_true, beq_iff_eq] at h
      obtain ⟨t, ht⟩ := Option.isSome_iff_exists.1 h.2
      rw [Part.castDates, Filter.castDates, ht, h.1]
      rfl
    | _ => cases h
  | _ => cases h

/-- No other part becomes a fault. -/
theorem Part.exists_fault_of_castDates {p : Part} (h : p.isDatedPattern = false) {e : StoreError}
    (he : p.castDates.fault? = some e) : ∃ d, p.fault? = some d := by
  cases p with
  | operator options op operand =>
    rw [Part.castDates, fault?_operator_eq_some_iff] at he
    simp only [fault?_operator_eq_some_iff]
    by_cases hop : op = "$regex"
    · subst hop
      cases operand with
      | str s =>
        have hread : Instant.read? s = none := by
          simpa [isDatedPattern] using h
        rw [Filter.castDates, hread] at he
        have hmeets : matchesRegex none (.str s) (options.map Filter.castDates) =
            matchesRegex none (.str s) options := by
          rw [matchesRegex, modeOf_castDates]
          rfl
        exact ⟨e, hmeets.symm.trans he⟩
      | _ => exact ⟨_, rfl⟩
    · exact ⟨e, meets_error_of_ne hop he options none operand⟩
  | _ => exact ⟨_, rfl⟩

end PagedFilter.Document
