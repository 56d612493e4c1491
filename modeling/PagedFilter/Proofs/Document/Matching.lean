import PagedFilter.Document.Match
import PagedFilter.Proofs.Store

/-!
The evaluation of document filters, case by case: clauses and operators as tests made in order, groups
of filters, fields with operators, and the operand of `$elemMatch`.
-/

namespace PagedFilter.Document

theorem acceptsClauses_eq_allUntil (doc : Row) (clauses : Fields Value) :
    acceptsClauses doc clauses = allUntil (fun e => acceptsClause doc e.1 e.2) clauses := by
  induction clauses with
  | nil => rfl
  | cons e rest ih =>
    rw [acceptsClauses, ih]
    rfl

theorem acceptsOperators_eq_allUntil (options value : Option Value) (operators : Fields Value) :
    acceptsOperators options value operators =
      allUntil (fun e => acceptsOperator options value e.1 e.2) operators := by
  induction operators with
  | nil => rfl
  | cons e rest ih =>
    rw [acceptsOperators, ih]
    rfl

theorem acceptsAll_eq_allUntil (doc : Row) (items : List Value) :
    acceptsAll doc items = allUntil (accepts doc) items := by
  induction items with
  | nil => rfl
  | cons f rest ih =>
    rw [acceptsAll, ih]
    rfl

theorem acceptsAny_eq_anyUntil (doc : Row) (items : List Value) :
    acceptsAny doc items = anyUntil (accepts doc) items := by
  induction items with
  | nil => rfl
  | cons f rest ih =>
    rw [acceptsAny, ih]
    rfl

theorem isGroupKey_of_not_isNative {key : String} (h : isNative key = false) :
    isGroupKey key = false := by
  by_cases ha : key = "$and"
  · rw [ha] at h
    exact absurd h (by decide)
  · by_cases ho : key = "$or"
    · rw [ho] at h
      exact absurd h (by decide)
    · by_cases hr : key = "$nor"
      · rw [hr] at h
        exact absurd h (by decide)
      · simp [isGroupKey, ha, ho, hr]

theorem acceptsClause_operators {key : String} {condition : Fields Value}
    (hk : isNative key = false) (h : holdsOperators condition = true) (doc : Row) :
    acceptsClause doc key (.map condition) =
      acceptsOperators (Fields.find? condition "$options") (Value.lookup doc key) condition := by
  simp [acceptsClause, isGroupKey_of_not_isNative hk, hk, h]

theorem acceptsClause_single {key op : String} (hk : isNative key = false)
    (hop : isNative op = true ∧ isGroupKey op = false) {operand : Value} {doc : Row} {b : Bool}
    (h : ∀ options, acceptsOperator options (Value.lookup doc key) op operand = .ok b) :
    acceptsClause doc key (.map [(op, operand)]) = .ok b := by
  have hnative : holdsOperators [(op, operand)] = true := by simp [holdsOperators, hop]
  rw [acceptsClause_operators hk hnative, acceptsOperators_eq_allUntil, allUntil_singleton]
  exact h _

theorem acceptsClause_group (g : Logical) (doc : Row) (items : List Value) :
    acceptsClause doc g.symbol (.list items) =
      match g with
      | .and => acceptsAll doc items
      | .or => acceptsAny doc items
      | .nor => (acceptsAny doc items).map (!·) := by
  cases g with
  | and => simp [acceptsClause, Logical.symbol]
  | or => simp [acceptsClause, Logical.symbol]
  | nor =>
    simp only [acceptsClause, Logical.symbol, String.reduceEq, if_false, if_true]
    cases acceptsAny doc items <;> rfl

theorem acceptsOperator_of_ne {op : String} (h : op ≠ "$elemMatch") (options value : Option Value)
    (operand : Value) : acceptsOperator options value op operand = meets options value op operand := by
  cases operand <;> simp [acceptsOperator, h]

/-- Operators in the operand of `$elemMatch` ask for an item of a list that meets them. -/
theorem acceptsOperator_elements {condition : Fields Value} (h : holdsOperators condition = true)
    (options value : Option Value) {test : Value → Bool}
    (hitem : ∀ item, acceptsOperators (Fields.find? condition "$options") (some item) condition =
      .ok (test item)) :
    acceptsOperator options value "$elemMatch" (.map condition) =
      .ok (match value with
        | some (.list items) => items.any test
        | _ => false) := by
  cases value with
  | none => simp [acceptsOperator]
  | some v =>
    cases v with
    | list items =>
      simp only [acceptsOperator, if_true, h]
      exact anyUntil_of_ok fun item _ => hitem item
    | _ => simp [acceptsOperator]

/-- Any other map asks for an item of a list that it accepts as a document. -/
theorem acceptsOperator_members {condition : Fields Value} (h : holdsOperators condition = false)
    (options value : Option Value) {test : Row → Bool}
    (hdoc : ∀ doc, acceptsClauses doc condition = .ok (test doc)) :
    acceptsOperator options value "$elemMatch" (.map condition) =
      .ok (match value with
        | some (.list items) => items.any fun item =>
          match item with
          | .map doc => test doc
          | _ => false
        | _ => false) := by
  cases value with
  | none => simp [acceptsOperator]
  | some v =>
    cases v with
    | list items =>
      simp only [acceptsOperator, if_true, h, Bool.false_eq_true, if_false]
      refine anyUntil_of_ok fun item _ => ?_
      cases item with
      | map doc => exact hdoc doc
      | _ => rfl
    | _ => simp [acceptsOperator]

end PagedFilter.Document
