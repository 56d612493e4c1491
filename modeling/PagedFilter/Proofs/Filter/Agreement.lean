import PagedFilter.Proofs.Document.Meaning
import PagedFilter.Proofs.Table.Columns
import PagedFilter.Proofs.Table.Meaning

/-!
Filters over the words that both stores know. On a row whose cells are of the kinds that a filter
compares them with, its document filter and its clauses accept alike: no clause is unknown and no
document filter is an error.
-/

namespace PagedFilter.Filter

open Document Table

/-- A value that has no parts and is not null. -/
def IsPlain (v : Value) : Prop := v.isNull = false ∧ v.isList = false ∧ v.isMap = false

/-- An operator that both stores know, with an operand of the kind of a cell. -/
def SuitsOperator (cell : Value) (op : Operator) (operand : Value) : Prop :=
  match op with
  | .isIn | .notIn => ∃ items, operand = .list items ∧ ∀ x ∈ items, x.kind = cell.kind
  | .eq | .ne | .neq | .gt | .gte | .lt | .lte => operand.kind = cell.kind
  | _ => False

/-- A field's value for both stores, with operands of the kind of a cell. -/
def Suits (cell : Value) : Value → Prop
  | .map operators => operators ≠ [] ∧ IsUnambiguous operators ∧
      ∀ e ∈ operators, ∃ op, Operator.ofName? e.1 = some op ∧ SuitsOperator cell op e.2
  | .list items => ∀ x ∈ items, x.kind = cell.kind
  | v => v.kind = cell.kind

/-- A filter in the words of both stores, over fields whose cells in a row are of the kinds that the
filter compares them with. -/
def IsSharedOn (row : Row) : Fields Value → Prop :=
  Everywhere fun k v => isNative k = false ∧ Logical.ofKey? k ≠ some .nor ∧
    (Logical.ofKey? k = none → '.' ∉ k.toList ∧
      ∃ cell, Fields.find? row k = some cell ∧ IsPlain cell ∧ Suits cell v)

/-! ### Cells -/

theorem IsPlain.of_kind {cell v : Value} (hc : IsPlain cell) (h : v.kind = cell.kind) :
    IsPlain v := by
  obtain ⟨hn, hl, hm⟩ := hc
  cases cell <;> cases v <;>
    simp_all [IsPlain, Value.kind, Value.isNull, Value.isList, Value.isMap]

theorem IsPlain.equals {cell : Value} (hc : IsPlain cell) (operand : Value) :
    equals (some cell) operand = cell.looseEq operand := by
  obtain ⟨hn, hl, _⟩ := hc
  cases cell with
  | null => simp [Value.isNull] at hn
  | list items => simp [Value.isList] at hl
  | _ => rfl

theorem IsPlain.isMember {cell : Value} (hc : IsPlain cell) (items : List Value) :
    isMember (some cell) (.list items) = items.any (cell.looseEq ·) := by
  rw [Document.isMember]
  exact congrArg items.any (funext hc.equals)

theorem IsPlain.isOrdered {cell : Value} (hc : IsPlain cell) {operand : Value}
    (h : operand.kind = cell.kind) (wanted : Ordering → Bool) :
    isOrdered wanted (some cell) operand = wanted (cell.compare operand) := by
  obtain ⟨hn, hl, _⟩ := hc
  have hsame : cell.sameKind operand = true := by simp [Value.sameKind, h]
  have hcompares : comparesAs wanted operand cell = wanted (cell.compare operand) := by
    simp [comparesAs, hn, hsame]
  cases cell with
  | null => simp [Value.isNull] at hn
  | list items => simp [Value.isList] at hl
  | _ => exact hcompares

theorem IsPlain.comparison {cell : Value} (hc : IsPlain cell) {operand : Value}
    (h : operand.kind = cell.kind) (wanted : Ordering → Bool) :
    comparison wanted operand (some cell) = some (wanted (cell.compare operand)) := by
  have ho := hc.of_kind h
  rw [Table.comparison, known, hc.1, ho.1, h]
  simp

theorem IsPlain.oneOf {cell : Value} (hc : IsPlain cell) {items : List Value}
    (h : ∀ x ∈ items, x.kind = cell.kind) :
    oneOf items (some cell) = some (items.any (cell.looseEq ·)) := by
  have hnull : items.any (·.isNull) = false := by
    rw [List.any_eq_false]
    intro x hx
    rw [(hc.of_kind (h x hx)).1]
    exact Bool.false_ne_true
  rw [oneOf_of_not_isNull items hc.1, hnull]
  cases items.any (cell.looseEq ·) <;> rfl

/-! ### Fields -/

/-- An operator says the same of a cell to both stores. -/
theorem atom_eq_passes {cell : Value} (hc : IsPlain cell) {op : Operator} {operand : Value}
    (h : SuitsOperator cell op operand) (mode : Pattern.Mode) :
    atom op operand (some cell) = some (passes mode (some cell) op operand) := by
  cases op <;> simp only [SuitsOperator] at h
  case isIn =>
    obtain ⟨items, rfl, hitems⟩ := h
    rw [passes, hc.isMember]
    exact hc.oneOf hitems
  case notIn =>
    obtain ⟨items, rfl, hitems⟩ := h
    rw [passes, hc.isMember, atom, listed, hc.oneOf hitems]
    rfl
  case eq =>
    rw [atom, (hc.of_kind h).1, if_neg Bool.false_ne_true, passes, hc.equals]
    exact hc.comparison h (· == .eq)
  case ne | neq =>
    rw [atom, (hc.of_kind h).1, if_neg Bool.false_ne_true, passes, hc.equals]
    exact hc.comparison h (· != .eq)
  case gt | gte | lt | lte =>
    rw [atom, passes, hc.isOrdered h]
    exact hc.comparison h _

theorem compileOperand_of_suits {cell : Value} (hc : IsPlain cell) {op : Operator}
    {operand : Value} (h : SuitsOperator cell op operand) : compileOperand operand = operand := by
  have hmap : operand.isMap = false := by
    cases op <;> simp only [SuitsOperator] at h
    case isIn | notIn =>
      obtain ⟨items, rfl, _⟩ := h
      rfl
    all_goals exact (hc.of_kind h).2.2
  cases operand with
  | map fields => simp [Value.isMap] at hmap
  | _ => rfl

theorem namedAtom_eq_meetsNamed {cell : Value} (hc : IsPlain cell) {e : String × Value}
    (h : ∃ op, Operator.ofName? e.1 = some op ∧ SuitsOperator cell op e.2) (mode : Pattern.Mode) :
    namedAtom (some cell) e = some (meetsNamed mode (some cell) e.1 e.2) := by
  obtain ⟨op, hop, hs⟩ := h
  have hne : op ≠ .elemMatch := by
    rintro rfl
    exact hs
  rw [namedAtom, hop, meetsNamed_of_ne hop hne, compileOperand_of_suits hc hs]
  exact atom_eq_passes hc hs mode

theorem fieldMeaning_eq_holdsEntry {row : Row} {k : String} {cell v : Value}
    (hk : Logical.ofKey? k = none) (hcell : Value.lookup row k = some cell) (hc : IsPlain cell)
    (hs : Suits cell v) : fieldMeaning (some cell) v = some (holdsEntry row k v) := by
  cases v with
  | map operators =>
    have hatoms : operators.map (namedAtom (some cell)) =
        (operators.map fun e => meetsNamed (modeIn operators) (some cell) e.1 e.2).map some := by
      rw [List.map_map]
      exact List.map_congr_left fun e he =>
        namedAtom_eq_meetsNamed hc (hs.2.2 e he) (modeIn operators)
    rw [fieldMeaning, hatoms, Truth.all_map_some, holdsEntry, hcell, meetsAll_eq_all, List.all_map]
    rfl
  | list items =>
    rw [fieldMeaning, hc.oneOf hs, holdsEntry, hk, hcell, hc.isMember]
  | _ =>
    rw [holdsEntry_scalar rfl rfl, hcell]
    have heq : SuitsOperator cell .eq _ := hs
    exact atom_eq_passes hc heq ⟨false, false, false, false⟩

/-! ### Filters -/

theorem IsSharedOn.meaning_eq_holds {row : Row} {fields : Fields Value}
    (h : IsSharedOn row fields) {cell : String → Option Value}
    (hcell : ∀ k, '.' ∉ k.toList → cell k = Fields.find? row k) :
    meaningOfFields cell fields = some (holdsEntries row fields) := by
  induction h with
  | nil => rfl
  | field hk hv _ ih =>
    obtain ⟨hpoint, c, hfind, hc, hs⟩ := hv.2.2 hk
    have hlookup := (Value.lookup_of_not_mem row _ hpoint).trans hfind
    rw [meaningOfFields, meaningOfEntry_field hk, hcell _ hpoint, hfind, ih,
      fieldMeaning_eq_holdsEntry hk hlookup hc hs, Truth.some_and_some, holdsEntries]
  | nor hk hv _ _ => exact absurd hk hv.2.1
  | @group k g rest members hk hg _ _ _ ihm ih =>
    have hmembers : members.map (meaningOfFields cell) =
        (members.map (holdsEntries row)).map some := by
      rw [List.map_map]
      exact List.map_congr_left ihm
    rw [meaningOfFields, meaningOfEntry_group hk hg, ih, hmembers, Truth.any_map_some,
      Truth.all_map_some, holdsEntries, holdsEntry, hk]
    cases g with
    | and =>
      simp only [reduceCtorEq, if_false, holdAll_map, List.all_map]
      exact Truth.some_and_some _ _
    | or =>
      simp only [if_true, holdsSome_map, List.any_map]
      exact Truth.some_and_some _ _
    | nor => exact absurd rfl hg

theorem IsSharedOn.isTableFilter {row : Row} {fields : Fields Value} (h : IsSharedOn row fields) :
    IsTableFilter fields := by
  refine Everywhere.mono h fun k v hv hk => ?_
  obtain ⟨_, cell, _, hc, hs⟩ := hv.2.2 hk
  cases v with
  | map operators =>
    obtain ⟨hne, _, hops⟩ := hs
    obtain ⟨e, rest, rfl⟩ := List.exists_cons_of_ne_nil hne
    refine ⟨?_, fun d hd s _ => ?_⟩
    · obtain ⟨op, hop, hso⟩ := hops e List.mem_cons_self
      refine ⟨e, List.mem_cons_self, op, hop, ?_⟩
      cases op <;> first | rfl | exact hso.elim
    · obtain ⟨op, hop, hso⟩ := hops d hd
      constructor
      · intro hlike
        rw [hop, Option.some.injEq] at hlike
        subst hlike
        exact hso.elim
      · intro hilike
        rw [hop, Option.some.injEq] at hilike
        subst hilike
        exact hso.elim
  | _ => exact ⟨trivial, trivial⟩

theorem isReadable_operators {cell : Value} {mode : Pattern.Mode} {operators : Fields Value}
    (h : ∀ e ∈ operators, ∃ op, Operator.ofName? e.1 = some op ∧ SuitsOperator cell op e.2) :
    IsReadable (.operators mode) operators := by
  induction operators with
  | nil => exact .nil
  | cons e rest ih =>
    obtain ⟨op, hop, hs⟩ := h e List.mem_cons_self
    have hany : takesAny op = true := by cases op <;> first | rfl | exact hs.elim
    exact .plain hop hany (ih fun d hd => h d (List.mem_cons_of_mem _ hd))

theorem IsSharedOn.isReadable {row : Row} {fields : Fields Value} (h : IsSharedOn row fields) :
    IsReadable .filter fields := by
  induction h with
  | nil => exact .nil
  | @field k v rest hk hv _ ih =>
    obtain ⟨_, cell, _, _, hs⟩ := hv.2.2 hk
    cases v with
    | map operators =>
      obtain ⟨hne, hu, hops⟩ := hs
      exact .operated ⟨hv.1, hk⟩ hne hu (isReadable_operators hops) ih
    | _ => exact .bare ⟨hv.1, hk⟩ rfl ih
  | nor hk hv _ _ => exact absurd hk hv.2.1
  | group hk _ hv _ _ ihm ih => exact .group hv.1 hk ihm ih

/-- Both stores accept a row, or both do not, as the filter holds of it or not. -/
theorem stores_agree (row : Row) (ctx : Context) (name : String) (fields : Fields Value)
    (hw : Value.WellFormed (.map fields)) (h : IsSharedOn row fields) (hflat : row.IsFlat)
    (hid : ctx.rename = id) (ht : '.' ∉ (ctx.table.getD name).toList) :
    ∃ b, accepts row (Document.compile (.map fields)) = .ok b ∧
      Clause.evaluate row
        ((Query.ofTable name).filter (Table.compile ctx (some name) (.map fields))).clauses =
          .ok (some b) := by
  have hclauses : ((Query.ofTable name).filter
      (Table.compile ctx (some name) (.map fields))).clauses =
        Clause.prune (filterClauses ctx (some name) fields) := List.nil_append _
  have hcolumn (k : String) : ctx.columnName k = k := congrFun hid k
  have hcell : ∀ k, '.' ∉ k.toList →
      resolve row (ctx.qualifiedName k (some name)) = Fields.find? row k := by
    intro k hk
    rw [resolve_qualifiedName hflat ht (by rwa [hcolumn]), hcolumn]
  refine ⟨holdsEntries row fields, accepts_compile_map hw h.isReadable row, ?_⟩
  rw [hclauses, evaluate_filterClauses row ctx (some name) h.isTableFilter,
    h.meaning_eq_holds hcell]

theorem stores_agree_on_nested_groups :
    let grown : Fields Value := [("age", .map [("gte", .int 18), ("ne", .int 40)])]
    let ada : Fields Value := [("and", .list ([[("name", .str "Ada")], []].map .map))]
    let others : Fields Value := [("name", .list [.str "Bo", .str "Cy"])]
    let fields : Fields Value :=
      [("and", .list ([grown].map .map)), ("or", .list ([ada, others].map .map))]
    let row : Row := [("age", .int 20), ("name", .str "Cy")]
    IsSharedOn row fields ∧ accepts row (Document.compile (.map fields)) = .ok true ∧
      Clause.evaluate row ((Query.ofTable "people").filter
        (Table.compile .default (some "people") (.map fields))).clauses = .ok (some true) := by
  intro grown ada others fields row
  have hgte : Operator.ofName? "gte" = some .gte := by decide
  have hne : Operator.ofName? "ne" = some .ne := by decide
  have hage : Suits (.int 20) (.map [("gte", .int 18), ("ne", .int 40)]) := by
    refine ⟨by simp, by decide, List.forall_mem_cons.2 ⟨⟨.gte, hgte, rfl⟩, ?_⟩⟩
    exact List.forall_mem_cons.2 ⟨⟨.ne, hne, rfl⟩, by simp⟩
  have hnames : Suits (.str "Cy") (.list [.str "Bo", .str "Cy"]) := by
    intro x hx
    rcases List.mem_cons.1 hx with rfl | hx
    · rfl
    · rw [List.mem_singleton.1 hx]
  have hgrown : IsSharedOn row grown :=
    .field rfl ⟨by decide, by decide, fun _ => ⟨by decide, .int 20, rfl, ⟨rfl, rfl, rfl⟩, hage⟩⟩ .nil
  have hname : IsSharedOn row [("name", .str "Ada")] :=
    .field rfl ⟨by decide, by decide, fun _ => ⟨by decide, .str "Cy", rfl, ⟨rfl, rfl, rfl⟩, rfl⟩⟩ .nil
  have hothers : IsSharedOn row others :=
    .field rfl ⟨by decide, by decide, fun _ => ⟨by decide, .str "Cy", rfl, ⟨rfl, rfl, rfl⟩, hnames⟩⟩
      .nil
  have hada : IsSharedOn row ada := by
    refine .group rfl (g := .and) (by decide) ⟨by decide, by decide, nofun⟩ ?_ .nil
    exact List.forall_mem_cons.2 ⟨hname, List.forall_mem_cons.2 ⟨.nil, by simp⟩⟩
  have h : IsSharedOn row fields := by
    refine .group rfl (g := .and) (by decide) ⟨by decide, by decide, nofun⟩ ?_ ?_
    · exact List.forall_mem_cons.2 ⟨hgrown, by simp⟩
    · refine .group rfl (g := .or) (by decide) ⟨by decide, by decide, nofun⟩ ?_ .nil
      exact List.forall_mem_cons.2 ⟨hada, List.forall_mem_cons.2 ⟨hothers, by simp⟩⟩
  have hflat : row.IsFlat := by
    intro e he
    rcases List.mem_cons.1 he with rfl | he
    · decide
    · rw [List.mem_singleton.1 he]
      decide
  obtain ⟨b, hdocument, htable⟩ :=
    stores_agree row .default "people" fields (by decide +kernel) h hflat rfl (by decide)
  have haccepts : (accepts row (Document.compile (.map fields))).toOption = some true := by
    decide +kernel
  rw [hdocument] at haccepts
  obtain rfl : b = true := Option.some.inj haccepts
  exact ⟨h, hdocument, htable⟩

end PagedFilter.Filter
