import PagedFilter.Document.Collection
import PagedFilter.Proofs.Document.Matching
import PagedFilter.Proofs.Filter.Canonical

/-!
The parts of document filters that the store evaluates, and what it cannot evaluate of them. Whether an
operator is an error does not depend on the value it meets. So every failure of a filter, on any
document, is a fault that one of its parts has by itself; which faults show depends on the clauses that
are reached.
-/

namespace PagedFilter.Document

/-! ### Operators -/

/-- A pattern that is an error is one for every value. -/
theorem matchesRegex_error {value options : Option Value} {pattern : Value} {e : StoreError}
    (h : matchesRegex value pattern options = .error e) (other : Option Value) :
    matchesRegex other pattern options = .error e := by
  unfold matchesRegex at h ⊢
  split at h
  · split at h
    · exact h
    · cases h
  · exact h

/-- Operators other than patterns are errors by their names. -/
theorem meets_error_of_ne {op : String} (hop : op ≠ "$regex") {options value : Option Value}
    {operand : Value} {e : StoreError} (h : meets options value op operand = .error e)
    (options' value' : Option Value) (operand' : Value) :
    meets options' value' op operand' = .error e := by
  unfold meets at h
  split at h
  case h_11 => exact absurd rfl hop
  case h_16 => simp_all [meets]
  all_goals cases h

theorem meets_error {options value : Option Value} {op : String} {operand : Value} {e : StoreError}
    (h : meets options value op operand = .error e) (other : Option Value) :
    meets options other op operand = .error e := by
  by_cases hop : op = "$regex"
  · subst hop
    exact matchesRegex_error h other
  · exact meets_error_of_ne hop h options other operand

/-! ### Parts -/

/-- What the store evaluates of a filter and may be unable to. -/
inductive Part where
  /-- A value where a filter is wanted that is no map. -/
  | other (v : Value)
  /-- A group whose members are no list. -/
  | group (key : String)
  /-- A clause whose key carries the mark, but is no group. -/
  | clause (key : String)
  /-- An operator with its operand; `options` belongs to the pattern of the same map. -/
  | operator (options : Option Value) (op : String) (operand : Value)

/-- The error that the store reports when it evaluates a part. -/
def Part.fault? : Part → Option StoreError
  | other v => some (.unsupported (.filterOfType v.typeName))
  | group key => some (.unsupported (.groupWithoutList key))
  | clause key => some (.unsupported (.key key))
  | operator options op operand =>
    match meets options none op operand with
    | .error e => some e
    | .ok _ => none

mutual

/-- The parts of a filter, in the order in which they are reached. -/
def parts : Value → List Part
  | .map clauses => partsOfClauses clauses
  | v => [.other v]

def partsOfClauses : List (String × Value) → List Part
  | [] => []
  | (key, condition) :: rest => partsOfClause key condition ++ partsOfClauses rest

def partsOfClause (key : String) : Value → List Part
  | .list members =>
    if isGroupKey key then partsOfMembers members
    else if isNative key then [.clause key]
    else []
  | .map condition =>
    if isGroupKey key then [.group key]
    else if isNative key then [.clause key]
    else if holdsOperators condition then
      partsOfOperators (Fields.find? condition "$options") condition
    else []
  | _ =>
    if isGroupKey key then [.group key]
    else if isNative key then [.clause key]
    else []

def partsOfMembers : List Value → List Part
  | [] => []
  | f :: rest => parts f ++ partsOfMembers rest

def partsOfOperators (options : Option Value) : List (String × Value) → List Part
  | [] => []
  | (op, operand) :: rest => partsOfOperator options op operand ++ partsOfOperators options rest

/-- The parts of an operator: those of the operand of `$elemMatch`, or the operator itself. -/
def partsOfOperator (options : Option Value) (op : String) : Value → List Part
  | .map condition =>
    if op = "$elemMatch" then
      if holdsOperators condition then
        partsOfOperators (Fields.find? condition "$options") condition
      else partsOfClauses condition
    else [.operator options op (.map condition)]
  | operand => if op = "$elemMatch" then [] else [.operator options op operand]

end

theorem mem_partsOfClauses_iff {p : Part} {clauses : Fields Value} :
    p ∈ partsOfClauses clauses ↔ ∃ e ∈ clauses, p ∈ partsOfClause e.1 e.2 := by
  induction clauses with
  | nil => simp [partsOfClauses]
  | cons e rest ih => simp [partsOfClauses, ih]

theorem mem_partsOfMembers_iff {p : Part} {members : List Value} :
    p ∈ partsOfMembers members ↔ ∃ f ∈ members, p ∈ parts f := by
  induction members with
  | nil => simp [partsOfMembers]
  | cons f rest ih => simp [partsOfMembers, ih]

theorem mem_partsOfOperators_iff {p : Part} {options : Option Value} {operators : Fields Value} :
    p ∈ partsOfOperators options operators ↔
      ∃ e ∈ operators, p ∈ partsOfOperator options e.1 e.2 := by
  induction operators with
  | nil => simp [partsOfOperators]
  | cons e rest ih => simp [partsOfOperators, ih]

theorem partsOfOperator_of_ne {op : String} (h : op ≠ "$elemMatch") (options : Option Value)
    (operand : Value) : partsOfOperator options op operand = [.operator options op operand] := by
  cases operand <;> simp [partsOfOperator, h]

/-! ### Failing by a part -/

/-- Whether an error is the fault of some part. -/
def IsFaultOf (e : StoreError) (ps : List Part) : Prop := ∃ p ∈ ps, p.fault? = some e

/-- Wherever a value stands in a filter, what fails in evaluating it is the fault of a part of it. -/
structure FailsByParts (v : Value) : Prop where
  filter : ∀ {doc e}, accepts doc v = .error e → IsFaultOf e (parts v)
  clause : ∀ {doc key e}, acceptsClause doc key v = .error e → IsFaultOf e (partsOfClause key v)
  operator : ∀ {options value op e}, acceptsOperator options value op v = .error e →
    IsFaultOf e (partsOfOperator options op v)

theorem isFaultOf_operator {options value : Option Value} {op : String} {operand : Value}
    {e : StoreError} (h : meets options value op operand = .error e) :
    IsFaultOf e [.operator options op operand] := by
  refine ⟨_, List.mem_singleton.2 rfl, ?_⟩
  rw [Part.fault?, meets_error h none]

theorem isFaultOf_singleton {p : Part} {e : StoreError} (h : p.fault? = some e) :
    IsFaultOf e [p] := ⟨p, List.mem_singleton.2 rfl, h⟩

/-! ### Values that have no parts of their own -/

section Leaf

variable {v : Value} (hl : v.isList = false) (hm : v.isMap = false)
include hl hm

theorem acceptsClause_leaf (doc : Row) (key : String) : acceptsClause doc key v =
    if isGroupKey key then .error (.unsupported (.groupWithoutList key))
    else if isNative key then .error (.unsupported (.key key))
    else .ok (equals (Value.lookup doc key) v) := by
  cases v with
  | list _ => cases hl
  | map _ => cases hm
  | _ => rfl

theorem partsOfClause_leaf (key : String) : partsOfClause key v =
    if isGroupKey key then [.group key] else if isNative key then [.clause key] else [] := by
  cases v with
  | list _ => cases hl
  | map _ => cases hm
  | _ => rfl

end Leaf

section NoMap

variable {v : Value} (hm : v.isMap = false)
include hm

theorem accepts_of_not_isMap (doc : Row) :
    accepts doc v = .error (.unsupported (.filterOfType v.typeName)) := by
  cases v with
  | map _ => cases hm
  | _ => rfl

theorem parts_of_not_isMap : parts v = [.other v] := by
  cases v with
  | map _ => cases hm
  | _ => rfl

theorem acceptsOperator_of_not_isMap (options value : Option Value) (op : String) :
    acceptsOperator options value op v =
      if op = "$elemMatch" then .ok false else meets options value op v := by
  cases v with
  | map _ => cases hm
  | _ => rfl

theorem partsOfOperator_of_not_isMap (options : Option Value) (op : String) :
    partsOfOperator options op v = if op = "$elemMatch" then [] else [.operator options op v] := by
  cases v with
  | map _ => cases hm
  | _ => rfl

theorem isFaultOf_operator_of_not_isMap {options value : Option Value} {op : String}
    {e : StoreError} (h : acceptsOperator options value op v = .error e) :
    IsFaultOf e (partsOfOperator options op v) := by
  rw [acceptsOperator_of_not_isMap hm] at h
  rw [partsOfOperator_of_not_isMap hm]
  split at h
  · cases h
  · next hop =>
    rw [if_neg hop]
    exact isFaultOf_operator h

theorem isFaultOf_filter_of_not_isMap {doc : Row} {e : StoreError} (h : accepts doc v = .error e) :
    IsFaultOf e (parts v) := by
  rw [accepts_of_not_isMap hm] at h
  cases h
  rw [parts_of_not_isMap hm]
  exact isFaultOf_singleton rfl

end NoMap

theorem failsByParts_leaf {v : Value} (hl : v.isList = false) (hm : v.isMap = false) :
    FailsByParts v := by
  refine ⟨isFaultOf_filter_of_not_isMap hm, ?_, isFaultOf_operator_of_not_isMap hm⟩
  intro doc key e he
  rw [acceptsClause_leaf hl hm] at he
  rw [partsOfClause_leaf hl hm]
  split at he
  · next hgroup =>
    cases he
    rw [if_pos hgroup]
    exact isFaultOf_singleton rfl
  · next hgroup =>
    rw [if_neg hgroup]
    split at he
    · next hnative =>
      cases he
      rw [if_pos hnative]
      exact isFaultOf_singleton rfl
    · cases he

/-! ### Lists and maps -/

theorem isFaultOf_members {items : List Value} (h : ∀ v ∈ items, FailsByParts v) {doc : Row}
    {f : Value} (hf : f ∈ items) {e : StoreError} (he : accepts doc f = .error e) :
    IsFaultOf e (partsOfMembers items) := by
  obtain ⟨p, hp, hfault⟩ := (h f hf).filter he
  exact ⟨p, mem_partsOfMembers_iff.2 ⟨f, hf, hp⟩, hfault⟩

theorem failsByParts_list {items : List Value} (h : ∀ v ∈ items, FailsByParts v) :
    FailsByParts (.list items) := by
  refine ⟨isFaultOf_filter_of_not_isMap rfl, ?_, isFaultOf_operator_of_not_isMap rfl⟩
  intro doc key e he
  have hany : acceptsAny doc items = .error e → IsFaultOf e (partsOfMembers items) := by
    intro hfails
    rw [acceptsAny_eq_anyUntil] at hfails
    obtain ⟨f, hf, herror⟩ := exists_error_of_anyUntil hfails
    exact isFaultOf_members h hf herror
  rw [acceptsClause] at he
  rw [partsOfClause]
  split at he
  · next hkey =>
    subst hkey
    rw [acceptsAll_eq_allUntil] at he
    obtain ⟨f, hf, herror⟩ := exists_error_of_allUntil he
    exact isFaultOf_members h hf herror
  · next hand =>
    split at he
    · next hkey =>
      subst hkey
      exact hany he
    · next hor =>
      split at he
      · next hkey =>
        subst hkey
        rcases error_of_bind_eq_error he with hfails | ⟨b, _, hb⟩
        · exact hany hfails
        · cases hb
      · next hnor =>
        have hgroup : isGroupKey key = false := by simp [isGroupKey, hand, hor, hnor]
        rw [hgroup]
        split at he
        · next hnative =>
          cases he
          rw [if_neg Bool.false_ne_true, if_pos hnative]
          exact isFaultOf_singleton rfl
        · cases he

section Fields

variable {fields : Fields Value} (h : ∀ f ∈ fields, FailsByParts f.2) {e : StoreError}
include h

theorem isFaultOf_clauses {doc : Row} (he : acceptsClauses doc fields = .error e) :
    IsFaultOf e (partsOfClauses fields) := by
  rw [acceptsClauses_eq_allUntil] at he
  obtain ⟨f, hf, herror⟩ := exists_error_of_allUntil he
  obtain ⟨p, hp, hfault⟩ := (h f hf).clause herror
  exact ⟨p, mem_partsOfClauses_iff.2 ⟨f, hf, hp⟩, hfault⟩

theorem isFaultOf_operators {options value : Option Value}
    (he : acceptsOperators options value fields = .error e) :
    IsFaultOf e (partsOfOperators options fields) := by
  rw [acceptsOperators_eq_allUntil] at he
  obtain ⟨f, hf, herror⟩ := exists_error_of_allUntil he
  obtain ⟨p, hp, hfault⟩ := (h f hf).operator herror
  exact ⟨p, mem_partsOfOperators_iff.2 ⟨f, hf, hp⟩, hfault⟩

/-- The operand of `$elemMatch` fails on an item of a list, as operators or as a filter. -/
theorem isFaultOf_elements {options value : Option Value}
    (he : acceptsOperator options value "$elemMatch" (.map fields) = .error e) :
    IsFaultOf e (partsOfOperator options "$elemMatch" (.map fields)) := by
  rw [partsOfOperator, if_pos rfl]
  cases value with
  | none => cases he
  | some v =>
    cases v with
    | list items =>
      simp only [acceptsOperator, if_true] at he
      split at he
      · next hops =>
        rw [if_pos hops]
        obtain ⟨item, _, herror⟩ := exists_error_of_anyUntil he
        exact isFaultOf_operators h herror
      · next hops =>
        rw [if_neg hops]
        obtain ⟨item, _, herror⟩ := exists_error_of_anyUntil he
        cases item with
        | map doc => exact isFaultOf_clauses h herror
        | _ => cases herror
    | _ => cases he

theorem isFaultOf_condition {doc : Row} {key : String}
    (he : acceptsClause doc key (.map fields) = .error e) :
    IsFaultOf e (partsOfClause key (.map fields)) := by
  rw [acceptsClause] at he
  rw [partsOfClause]
  split at he
  · next hgroup =>
    cases he
    rw [if_pos hgroup]
    exact isFaultOf_singleton rfl
  · next hgroup =>
    rw [if_neg hgroup]
    split at he
    · next hnative =>
      cases he
      rw [if_pos hnative]
      exact isFaultOf_singleton rfl
    · next hnative =>
      rw [if_neg hnative]
      split at he
      · next hops =>
        rw [if_pos hops]
        exact isFaultOf_operators h he
      · cases he

end Fields

theorem failsByParts_map {fields : Fields Value} (h : ∀ f ∈ fields, FailsByParts f.2) :
    FailsByParts (.map fields) := by
  refine ⟨fun he => ?_, isFaultOf_condition h, fun {options value op e} he => ?_⟩
  · rw [accepts] at he
    rw [parts]
    exact isFaultOf_clauses h he
  · by_cases hop : op = "$elemMatch"
    · subst hop
      exact isFaultOf_elements h he
    · rw [acceptsOperator_of_ne hop] at he
      rw [partsOfOperator_of_ne hop]
      exact isFaultOf_operator he

/-- Whatever a filter fails with on a document is the fault of one of its parts. -/
theorem failsByParts (v : Value) : FailsByParts v :=
  Value.inductionOn (fun _ => failsByParts_leaf) (fun _ => failsByParts_list)
    (fun _ => failsByParts_map) v

/-- What a filter fails to select with is the fault of a part of the filter, unless the collection is
set to fail. -/
theorem isFaultOf_select {store : Collection} (hstore : store.failure = none) {filter : Value}
    {e : StoreError} (h : store.select filter = .error e) : IsFaultOf e (parts filter) := by
  rw [Collection.select, hstore] at h
  obtain ⟨doc, _, hdoc⟩ := exists_error_of_filterUntilError h
  exact (failsByParts filter).filter hdoc

end PagedFilter.Document
