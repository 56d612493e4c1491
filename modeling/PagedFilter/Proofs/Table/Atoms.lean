import PagedFilter.Proofs.Table.Pruned

/-!
The clauses of a field say about its cell what the field's operators mean.
-/

namespace PagedFilter.Table

/-- Operators that say something about the cells of tables. -/
def isRelational : Operator → Bool
  | .eq | .ne | .neq | .gt | .gte | .lt | .lte | .isIn | .notIn | .like | .ilike | .isNull
  | .isNotNull => true
  | _ => false

theorem isSome_operatorClause? (op : Operator) (column : String) (operand : Value) :
    (operatorClause? op column operand).isSome = isRelational op := by
  cases op <;> rfl

theorem looseEq_null {v : Value} (h : v.isNull = false) : v.looseEq .null = false := by
  cases v <;> first | rfl | simp [Value.isNull] at h

theorem oneOf_of_isNull (values : List Value) {cell : Option Value}
    (h : isNullCell cell = true) :
    oneOf values cell = if values.isEmpty then some false else none := by
  have hu (x : Value) : known (fun v x => some (v.looseEq x)) x cell = none := by
    cases cell with
    | none => rfl
    | some v =>
      rw [isNullCell] at h
      simp [known, h]
  induction values with
  | nil => rfl
  | cons x rest ih =>
    rw [oneOf] at ih ⊢
    rw [List.map_cons, Truth.any, ih, hu]
    split <;> rfl

theorem oneOf_of_not_isNull (values : List Value) {v : Value} (h : v.isNull = false) :
    oneOf values (some v) =
      if values.any (v.looseEq ·) then some true
      else if values.any (·.isNull) then none else some false := by
  induction values with
  | nil => rfl
  | cons x rest ih =>
    rw [oneOf] at ih ⊢
    rw [List.map_cons, Truth.any, ih, List.any_cons, List.any_cons, known, h, Bool.false_or]
    cases hx : x.isNull with
    | true =>
      have hv : v.looseEq x = false := by
        cases x <;> simp_all [Value.isNull, looseEq_null]
      rw [hv]
      cases rest.any (v.looseEq ·) <;> cases rest.any (·.isNull) <;> rfl
    | false =>
      cases v.looseEq x <;> cases rest.any (v.looseEq ·) <;> cases rest.any (·.isNull) <;> rfl

/-- Membership is the alternative of the equalities. -/
theorem membership_eq_oneOf (values : List Value) (cell : Option Value) :
    membership values cell = oneOf values cell := by
  cases cell with
  | none =>
    rw [oneOf_of_isNull values rfl]
    rfl
  | some v =>
    cases h : v.isNull with
    | true =>
      rw [oneOf_of_isNull values (by simpa [isNullCell] using h), membership]
      simp [h]
    | false =>
      rw [oneOf_of_not_isNull values h, membership]
      cases values with
      | nil => rfl
      | cons x rest => simp [h]

/-- A comparison of order is unknown with null and between kinds. -/
theorem compareCell_eq_comparison {c : Comparison} (hl : c ≠ .like) (hi : c ≠ .ilike)
    (operand : Value) (cell : Option Value) :
    compareCell c operand cell = comparison (admits c) operand cell := by
  cases cell with
  | none => rfl
  | some v =>
    cases c <;> first | exact absurd rfl hl | exact absurd rfl hi |
      simp [compareCell, comparison, known, compareValues, Value.sameKind]

theorem compareCell_like (operand : Value) (cell : Option Value) :
    compareCell .like operand cell = known (likeTruth false) operand cell := by
  cases cell <;> rfl

theorem compareCell_ilike (operand : Value) (cell : Option Value) :
    compareCell .ilike operand cell = known (likeTruth true) operand cell := by
  cases cell <;> rfl

/-- The clause of an operator is true of a row as the operator is of the row's cell. -/
theorem truth_operatorClause? (row : Row) {op : Operator} {column : String} {operand : Value}
    {c : Clause} (h : operatorClause? op column operand = some c) :
    c.truth row = atom op operand (resolve row column) := by
  have order (k : Comparison) (hl : k ≠ .like) (hi : k ≠ .ilike) :=
    compareCell_eq_comparison hl hi operand (resolve row column)
  cases op <;> simp only [operatorClause?, Option.some.injEq, reduceCtorEq] at h
  case eq | ne | neq =>
    subst h
    cases ho : operand.isNull <;> simp only [atom, ho, if_true, if_false, Bool.false_eq_true,
      Clause.truth]
    exact order _ (by decide) (by decide)
  case gt | gte | lt | lte =>
    subst h
    exact order _ (by decide) (by decide)
  case isIn | notIn =>
    subst h
    simp only [Clause.truth, atom, membership_eq_oneOf]
  case like =>
    subst h
    exact compareCell_like _ _
  case ilike =>
    subst h
    exact compareCell_ilike _ _
  case isNull | isNotNull =>
    subst h
    cases ho : isRefusal operand <;> cases hc : isNullCell (resolve row column) <;>
      simp [Clause.truth, atom, ho, hc]

theorem atom_of_not_isRelational {op : Operator} (h : isRelational op = false) (operand : Value)
    (cell : Option Value) : atom op operand cell = some true := by
  cases op <;> first | rfl | simp [isRelational] at h

/-- The clause of a named operator, if it has one. -/
def namedClause? (column : String) (e : String × Value) : Option Clause :=
  (Operator.ofName? e.1).bind (operatorClause? · column e.2)

theorem namedAtom_of_none {column : String} {e : String × Value}
    (h : namedClause? column e = none) (cell : Option Value) : namedAtom cell e = some true := by
  cases hop : Operator.ofName? e.1 with
  | none => simp [namedAtom, hop]
  | some op =>
    have hn : operatorClause? op column e.2 = none := by simpa [namedClause?, hop] using h
    have hr := isSome_operatorClause? op column e.2
    rw [hn] at hr
    simpa [namedAtom, hop] using atom_of_not_isRelational hr.symm e.2 cell

theorem truth_namedClause? (row : Row) {column : String} {e : String × Value} {c : Clause}
    (h : namedClause? column e = some c) :
    c.truth row = namedAtom (resolve row column) e := by
  obtain ⟨op, hop, hc⟩ := Option.bind_eq_some_iff.1 h
  rw [truth_operatorClause? row hc]
  simp [namedAtom, hop]

theorem operatorClauses_cons (column : String) (e : String × Value) (rest : Fields Value) :
    operatorClauses column (e :: rest) =
      (namedClause? column e).toList ++ operatorClauses column rest := by
  cases h : namedClause? column e with
  | none =>
    rw [namedClause?] at h
    simp [operatorClauses, h]
  | some c =>
    rw [namedClause?] at h
    simp [operatorClauses, h]

theorem all_truth_operatorClauses (row : Row) (column : String) (operators : Fields Value) :
    Truth.all ((operatorClauses column operators).map (Clause.truth row)) =
      Truth.all (operators.map (namedAtom (resolve row column))) := by
  induction operators with
  | nil => rfl
  | cons e rest ih =>
    rw [operatorClauses_cons, List.map_append, Truth.all_append, ih, List.map_cons, Truth.all]
    cases h : namedClause? column e with
    | none => rw [namedAtom_of_none h]; rfl
    | some c =>
      rw [← truth_namedClause? row h]
      simp [Truth.all, Truth.and_true]

/-! ### Fields -/

/-- A field's value that adds a clause: of the operators of a map one at least has a meaning for
tables. -/
def Constrains : Value → Prop
  | .map operators => ∃ e ∈ operators, ∃ op, Operator.ofName? e.1 = some op ∧ isRelational op = true
  | _ => True

/-- No `like` operand of a field is too large for a pattern. -/
def PatternsFit : Value → Prop
  | .map operators => ∀ e ∈ operators, ∀ s, e.2 = .str s →
      (Operator.ofName? e.1 = some .like → Like.fits s false = true) ∧
        (Operator.ofName? e.1 = some .ilike → Like.fits s true = true)
  | _ => True

theorem operatorClause?_eq (column : String) (operand : Value) :
    operatorClause? .eq column operand =
      some (if operand.isNull then .isNull column else .compare column .eq operand) := rfl

theorem connective_operatorClause? {op : Operator} {column : String} {operand : Value} {c : Clause}
    (h : operatorClause? op column operand = some c) :
    c.connective = .and ∧ Clause.prune? c = some c := by
  cases op <;> simp only [operatorClause?, Option.some.injEq, reduceCtorEq] at h <;> subst h <;>
    first | exact ⟨rfl, rfl⟩ | (split <;> exact ⟨rfl, rfl⟩)

theorem mem_operatorClauses {column : String} {operators : Fields Value} {c : Clause}
    (h : c ∈ operatorClauses column operators) :
    ∃ e ∈ operators, ∃ op, Operator.ofName? e.1 = some op ∧
      operatorClause? op column e.2 = some c := by
  obtain ⟨e, he, hc⟩ := List.mem_filterMap.1 h
  obtain ⟨op, hop, hc⟩ := Option.bind_eq_some_iff.1 hc
  exact ⟨e, he, op, hop, hc⟩

theorem mem_fieldClauses {column : String} {v : Value} {c : Clause}
    (h : c ∈ fieldClauses column v) : c.connective = .and ∧ Clause.prune? c = some c := by
  cases v with
  | map operators =>
    obtain ⟨_, _, _, _, hc⟩ := mem_operatorClauses h
    exact connective_operatorClause? hc
  | list items =>
    rw [fieldClauses, List.mem_singleton] at h
    rw [h]
    exact ⟨rfl, rfl⟩
  | _ =>
    simp only [fieldClauses, Option.mem_toList] at h
    exact connective_operatorClause? h

theorem prune_of_forall {cs : List Clause} (h : ∀ c ∈ cs, Clause.prune? c = some c) :
    Clause.prune cs = cs := by
  induction cs with
  | nil => rfl
  | cons c rest ih =>
    rw [Clause.prune, h c (by simp), ih fun d hd => h d (by simp [hd])]
    rfl

theorem prune_fieldClauses (column : String) (v : Value) :
    Clause.prune (fieldClauses column v) = fieldClauses column v :=
  prune_of_forall fun _ h => (mem_fieldClauses h).2

theorem fieldClauses_ne_nil {v : Value} (h : Constrains v) (column : String) :
    fieldClauses column v ≠ [] := by
  cases v with
  | map operators =>
    obtain ⟨e, he, op, hop, hr⟩ := h
    rw [← isSome_operatorClause? op column e.2] at hr
    obtain ⟨c, hc⟩ := Option.isSome_iff_exists.1 hr
    have hm : c ∈ operatorClauses column operators :=
      List.mem_filterMap.2 ⟨e, he, by simp [hop, hc]⟩
    exact List.ne_nil_of_mem hm
  | list items => simp [fieldClauses]
  | _ => simp [fieldClauses, operatorClause?]

theorem truthOfList_fieldClauses (row : Row) (column : String) (v : Value) :
    Clause.truthOfList row (Clause.prune (fieldClauses column v)) =
      fieldMeaning (resolve row column) v := by
  rw [prune_fieldClauses, Clause.truthOfList_of_and row _ fun c h => (mem_fieldClauses h).1]
  cases v with
  | map operators => exact all_truth_operatorClauses row column operators
  | list items =>
    simp [fieldClauses, Truth.all, Truth.and_true, Clause.truth, membership_eq_oneOf, fieldMeaning]
  | _ =>
    have hc (x : Value) := truth_operatorClause? row (operatorClause?_eq column x)
    simp only [fieldClauses, operatorClause?_eq, Option.toList, List.map_cons, List.map_nil,
      Truth.all, Truth.and_true, hc, fieldMeaning]

theorem oversized?_of_order {c : Comparison} (hl : c ≠ .like) (hi : c ≠ .ilike) (operand : Value)
    (cell : Option Value) : oversized? c operand cell = none := by
  unfold oversized?
  split
  · cases c <;> first | exact absurd rfl hl | exact absurd rfl hi | rfl
  · rfl

theorem oversized?_of_fits {operand : Value} {cell : Option Value} :
    ((∀ s, operand = .str s → Like.fits s false = true) → oversized? .like operand cell = none) ∧
      ((∀ s, operand = .str s → Like.fits s true = true) → oversized? .ilike operand cell = none) := by
  constructor
  · intro h
    unfold oversized?
    split
    · simp [h _ rfl]
    · rfl
  · intro h
    unfold oversized?
    split
    · simp [h _ rfl]
    · rfl

theorem fault?_operatorClause? (row : Row) {op : Operator} {column : String} {operand : Value}
    {c : Clause} (h : operatorClause? op column operand = some c)
    (hl : op = .like → ∀ s, operand = .str s → Like.fits s false = true)
    (hi : op = .ilike → ∀ s, operand = .str s → Like.fits s true = true) :
    c.fault? row = none := by
  cases op <;> simp only [operatorClause?, Option.some.injEq, reduceCtorEq] at h <;> subst h
  case like => simpa only [Clause.fault?] using oversized?_of_fits.1 (hl rfl)
  case ilike => simpa only [Clause.fault?] using oversized?_of_fits.2 (hi rfl)
  case gt | gte | lt | lte =>
    simp only [Clause.fault?]
    exact oversized?_of_order (by simp) (by simp) _ _
  case isIn | notIn => simp only [Clause.fault?]
  case eq | ne | neq | isNull | isNotNull =>
    split <;> simp only [Clause.fault?]
    all_goals exact oversized?_of_order (by simp) (by simp) _ _

theorem faultOfList?_fieldClauses (row : Row) (column : String) {v : Value} (h : PatternsFit v) :
    Clause.faultOfList? row (fieldClauses column v) = none := by
  rw [faultOfList?_eq_none_iff]
  intro c hc
  cases v with
  | map operators =>
    obtain ⟨e, he, op, hop, hc⟩ := mem_operatorClauses hc
    exact fault?_operatorClause? row hc (fun ho s hs => (h e he s hs).1 (ho ▸ hop))
      (fun ho s hs => (h e he s hs).2 (ho ▸ hop))
  | list items =>
    rw [fieldClauses, List.mem_singleton] at hc
    rw [hc]
    simp only [Clause.fault?]
  | _ =>
    simp only [fieldClauses, Option.mem_toList] at hc
    exact fault?_operatorClause? row hc (by simp) (by simp)

end PagedFilter.Table
