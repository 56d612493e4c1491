import PagedFilter.Proofs.Table.Vanishing
import PagedFilter.Proofs.Value.Order

/-!
Membership in a list of one value, next to the comparison with that value. Both are unknown of a missing
cell and of null. Of a cell of another kind the comparison is unknown, but membership is false, and so
its negation selects rows that the comparison leaves out.
-/

namespace PagedFilter.Table

theorem looseEq_of_ne_kind {a b : Value} (h : a.kind ≠ b.kind) : a.looseEq b = false := by
  rw [Value.looseEq, beq_eq_false_iff_ne]
  exact mt Value.kind_eq_of_compare h

/-- Whether a filter of one operator on one field selects a row. -/
def operatorSelects (ctx : Context) (name field operator : String) (operand : Value) (row : Row) :
    Bool :=
  selects (narrowed ctx name [(field, .map [(operator, operand)])]) row

theorem operatorSelects_eq_atom (ctx : Context) (name : String) {field : String}
    (hfield : Logical.ofKey? field = none) (op : Operator) (operand : Value) (row : Row) :
    operatorSelects ctx name field op.name operand row =
      (atom op operand (resolve row (ctx.qualifiedName field (some name))) == some true) := by
  have hclauses : filterClauses ctx (some name) [(field, .map [(op.name, operand)])] =
      fieldClauses (ctx.qualifiedName field (some name)) (.map [(op.name, operand)]) := by
    rw [filterClauses_cons, entryClauses, hfield, filterClauses, List.append_nil]
  rw [operatorSelects, selects, narrowed_eq_prune, hclauses, truthOfList_fieldClauses]
  simp only [fieldMeaning, List.map_cons, List.map_nil, Truth.all, Truth.and_true, namedAtom,
    Operator.ofName?_name]

/-! ### One value -/

/-- A cell with a value of another kind, null aside. -/
def HoldsOtherKind (operand : Value) (cell : Option Value) : Prop :=
  ∃ v, cell = some v ∧ v.isNull = false ∧ v.kind ≠ operand.kind

theorem oneOf_singleton (operand : Value) (cell : Option Value) :
    oneOf [operand] cell = known (fun v x => some (v.looseEq x)) operand cell := by
  rw [oneOf, List.map_singleton, Truth.any, Truth.any, Truth.or_false]

section Atoms

variable {operand : Value} (hoperand : operand.isNull = false)
include hoperand

theorem known_some (test : Value → Value → Truth) {v : Value} (hv : v.isNull = false) :
    known test operand (some v) = test v operand := by
  rw [known, hv, hoperand]
  rfl

theorem atom_eq_not_null (cell : Option Value) :
    atom .eq operand cell = comparison (· == .eq) operand cell := by
  simp only [atom, hoperand, Bool.false_eq_true, if_false]

theorem atom_ne_not_null (cell : Option Value) :
    atom .ne operand cell = comparison (· != .eq) operand cell := by
  simp only [atom, hoperand, Bool.false_eq_true, if_false]

/-- But for a cell of another kind, both say the same. -/
theorem atom_singleton_of_kind {cell : Option Value} (h : ¬HoldsOtherKind operand cell) :
    atom .isIn (.list [operand]) cell = atom .eq operand cell ∧
      atom .notIn (.list [operand]) cell = atom .ne operand cell := by
  rw [atom_eq_not_null hoperand, atom_ne_not_null hoperand]
  simp only [atom, listed, oneOf_singleton]
  cases cell with
  | none => exact ⟨rfl, rfl⟩
  | some v =>
    cases hv : v.isNull with
    | true => simp [comparison, known, hv, Truth.not]
    | false =>
      have hkind : v.kind = operand.kind :=
        Decidable.byContradiction fun hne => h ⟨v, rfl, hv, hne⟩
      rw [comparison, comparison, known_some hoperand _ hv, known_some hoperand _ hv,
        known_some hoperand _ hv, if_pos hkind, if_pos hkind]
      exact ⟨rfl, rfl⟩

/-- A cell of another kind is not among the values, and does not compare. -/
theorem atom_singleton_of_other_kind {cell : Option Value} (h : HoldsOtherKind operand cell) :
    (atom .eq operand cell = none ∧ atom .isIn (.list [operand]) cell = some false) ∧
      atom .ne operand cell = none ∧ atom .notIn (.list [operand]) cell = some true := by
  obtain ⟨v, rfl, hv, hkind⟩ := h
  rw [atom_eq_not_null hoperand, atom_ne_not_null hoperand]
  simp only [atom, listed, oneOf_singleton]
  rw [comparison, comparison, known_some hoperand _ hv, known_some hoperand _ hv,
    known_some hoperand _ hv, if_neg hkind, if_neg hkind, looseEq_of_ne_kind hkind]
  exact ⟨⟨rfl, rfl⟩, rfl, rfl⟩

end Atoms

/-- Rows are selected alike by `eq` with a value and by `in` with a list of it, and alike by `ne` and
`nin` exactly if their cell is no value of another kind. A row with such a cell is selected by `nin`
and not by `ne`. -/
theorem singleton_membership_selects (ctx : Context) (name : String) {field : String}
    (hfield : Logical.ofKey? field = none) {operand : Value} (hoperand : operand.isNull = false)
    (row : Row) :
    operatorSelects ctx name field "eq" operand row =
        operatorSelects ctx name field "in" (.list [operand]) row ∧
      (operatorSelects ctx name field "ne" operand row =
          operatorSelects ctx name field "nin" (.list [operand]) row ↔
        ¬HoldsOtherKind operand (resolve row (ctx.qualifiedName field (some name)))) ∧
      (HoldsOtherKind operand (resolve row (ctx.qualifiedName field (some name))) →
        operatorSelects ctx name field "ne" operand row = false ∧
          operatorSelects ctx name field "nin" (.list [operand]) row = true) := by
  have heq := operatorSelects_eq_atom ctx name hfield .eq operand row
  have hin := operatorSelects_eq_atom ctx name hfield .isIn (.list [operand]) row
  have hne := operatorSelects_eq_atom ctx name hfield .ne operand row
  have hnin := operatorSelects_eq_atom ctx name hfield .notIn (.list [operand]) row
  simp only [Operator.name] at heq hin hne hnin
  rw [heq, hin, hne, hnin]
  by_cases h : HoldsOtherKind operand (resolve row (ctx.qualifiedName field (some name)))
  · obtain ⟨⟨hequal, hamong⟩, hunequal, hoff⟩ := atom_singleton_of_other_kind hoperand h
    rw [hequal, hamong, hunequal, hoff]
    simp [h]
  · obtain ⟨hamong, hoff⟩ := atom_singleton_of_kind hoperand h
    rw [hamong, hoff]
    simp [h]

theorem ages_other_than_seventeen :
    let field : String := "age"
    let row : Row := [("age", .int 20)]
    let missing : Row := [("name", .str "Ada")]
    operatorSelects .default "people" field "ne" (.int 17) row = true ∧
      operatorSelects .default "people" field "nin" (.list [.int 17]) row = true ∧
      operatorSelects .default "people" field "nin" (.list [.int 17]) missing = false ∧
      operatorSelects .default "people" field "eq" (.str "20") row =
        operatorSelects .default "people" field "in" (.list [.str "20"]) row ∧
      operatorSelects .default "people" field "nin" (.list [.str "20"]) row = true := by
  intro field row missing
  have hfield : Logical.ofKey? field = none := rfl
  have hcell : resolve row (Context.default.qualifiedName field (some "people")) =
      some (.int 20) := by decide +kernel
  have hnone : resolve missing (Context.default.qualifiedName field (some "people")) = none := by
    decide +kernel
  have hselected : operatorSelects .default "people" field "ne" (.int 17) row = true := by
    decide +kernel
  have hleft : operatorSelects .default "people" field "ne" (.int 17) missing = false := by
    decide +kernel
  have hnumber : (Value.int 17).isNull = false := rfl
  have htext : (Value.str "20").isNull = false := rfl
  obtain ⟨-, hsame, -⟩ := singleton_membership_selects .default "people" hfield hnumber row
  obtain ⟨-, hmissing, -⟩ := singleton_membership_selects .default "people" hfield hnumber missing
  obtain ⟨halike, -, hother⟩ := singleton_membership_selects .default "people" hfield htext row
  refine ⟨hselected, ?_, ?_, halike, ?_⟩
  · refine (hsame.2 ?_).symm.trans hselected
    rw [hcell]
    rintro ⟨v, hv, -, hkind⟩
    rw [Option.some.injEq] at hv
    exact hkind (hv ▸ rfl)
  · refine (hmissing.2 ?_).symm.trans hleft
    rw [hnone]
    rintro ⟨v, hv, -⟩
    cases hv
  · refine (hother ?_).2
    rw [hcell]
    exact ⟨.int 20, rfl, rfl, by decide⟩

/-- A number is not among texts, but it is not unequal to one. -/
theorem text_excludes_number_in_list_alone :
    let row : Row := [("n", .int 7)]
    Filter.normalize (.map [("n", .map [("nin", .list [.str "5"])])]) =
        .map [("n", .map [("nin", .list [.str "5"])])] ∧
      resolve row (Context.default.qualifiedName "n" (some "t")) = some (.int 7) ∧
      operatorSelects .default "t" "n" "ne" (.str "5") row = false ∧
      operatorSelects .default "t" "n" "nin" (.list [.str "5"]) row = true := by
  decide +kernel

end PagedFilter.Table
