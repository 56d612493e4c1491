import PagedFilter.Proofs.Document.Keys

/-!
Where a value stands in a filter decides how it is compiled. The entries of a map are compiled in two
ways, as clauses of a filter and as operators, and in both the key tells the place of what is under it.
The operand of `elemMatch` is either: its keys decide, and a compiled filter may have keys that its
source has not.
-/

namespace PagedFilter.Document

/-! ### Places -/

/-- Where a value stands in a filter. -/
inductive Place where
  | filter | members | field | operand | element

/-- A value is compiled as its place demands. -/
def Place.compile : Place → Value → Value
  | filter => Document.compile
  | members => compileMembers
  | field => compileField
  | operand => compileOperand
  | element => compileElement

/-- Compiling once more changes nothing. -/
def Place.Settles (p : Place) (v : Value) : Prop := p.compile (p.compile v) = p.compile v

theorem Place.Settles.compile {p : Place} {v : Value} (h : p.Settles v) :
    p.Settles (p.compile v) := congrArg p.compile h

/-- The place of what stands under a key of a filter. -/
def clausePlace (k : String) : Place := if (Logical.ofKey? k).isSome then .members else .field

/-- The place of what stands under an operator. -/
def operandPlace (k : String) : Place :=
  if nativeKey k = "$elemMatch" then .element else .operand

theorem nativeKey_eq_self_iff (k : String) : nativeKey k = k ↔ isNative k = true := by
  constructor
  · intro h
    rw [← h]
    exact isNative_nativeKey k
  · exact nativeKey_of_isNative

/-! ### Rewriting the entries of a map -/

/-- How the entries of a map are compiled: each gets a new key, and its place follows from the key. The
new key stays as it is, and demands the same place. -/
structure Rewriting where
  key : String → String
  place : String → Place
  key_key : ∀ k, key (key k) = key k
  place_key : ∀ k, place (key k) = place k

theorem ofKey?_clauseKey (k : String) : Logical.ofKey? (clauseKey k) = Logical.ofKey? k := by
  rw [clauseKey]
  cases hk : Logical.ofKey? k with
  | none => exact hk
  | some g => exact Logical.ofKey?_symbol g

theorem clauseKey_clauseKey (k : String) : clauseKey (clauseKey k) = clauseKey k := by
  rw [clauseKey, ofKey?_clauseKey, clauseKey]
  cases Logical.ofKey? k <;> rfl

/-- The keys of a filter. -/
def clauses : Rewriting where
  key := clauseKey
  place := clausePlace
  key_key := clauseKey_clauseKey
  place_key k := by rw [clausePlace, ofKey?_clauseKey, clausePlace]

/-- The keys of operators. -/
def operators : Rewriting where
  key := nativeKey
  place := operandPlace
  key_key := nativeKey_nativeKey
  place_key k := by rw [operandPlace, nativeKey_nativeKey, operandPlace]

namespace Rewriting

variable (r : Rewriting)

def entry (e : String × Value) : String × Value := (r.key e.1, (r.place e.1).compile e.2)

def fields (source : Fields Value) : Fields Value := Fields.ofList (source.map r.entry)

theorem entry_fst (e : String × Value) : (r.entry e).1 = r.key e.1 := rfl

theorem entry_entry_iff (e : String × Value) :
    r.entry (r.entry e) = r.entry e ↔ (r.place e.1).Settles e.2 := by
  simp only [entry, r.key_key, r.place_key, Prod.mk.injEq, true_and, Place.Settles]

theorem mem_fields_iff {source : Fields Value} {e : String × Value} :
    e ∈ r.fields source ↔ ∃ d ∈ Fields.kept r.key source, r.entry d = e :=
  Fields.mem_ofList_map_iff r.entry_fst

theorem sorted_fields (source : Fields Value) : Fields.Sorted (r.fields source) :=
  Fields.sorted_ofList _

theorem fields_eq_self_iff {source : Fields Value} (h : Fields.Sorted source) :
    r.fields source = source ↔ ∀ e ∈ source, r.entry e = e :=
  Fields.ofList_map_eq_self_iff r.key_key r.entry_fst h

/-- The second pass changes nothing exactly if each entry that stays settles in its place. -/
theorem fields_fields_iff (source : Fields Value) :
    r.fields (r.fields source) = r.fields source ↔
      ∀ e ∈ Fields.kept r.key source, (r.place e.1).Settles e.2 := by
  rw [r.fields_eq_self_iff (r.sorted_fields source)]
  simp only [r.mem_fields_iff, forall_exists_index, and_imp, forall_apply_eq_imp_iff₂,
    r.entry_entry_iff]

/-- The third pass changes nothing if it does not within the entries. -/
theorem fields_fields_fields {source : Fields Value}
    (h : ∀ e ∈ source, (r.place e.1).Settles ((r.place e.1).compile e.2)) :
    r.fields (r.fields (r.fields source)) = r.fields (r.fields source) := by
  rw [fields_fields_iff]
  intro e he
  obtain ⟨d, hd, rfl⟩ := r.mem_fields_iff.1 (Fields.mem_of_mem_kept r.key he)
  rw [entry, r.place_key]
  exact h d (Fields.mem_of_mem_kept r.key hd)

end Rewriting

theorem clauses_entry (e : String × Value) : clauses.entry e = compileEntry e := by
  change (clauseKey e.1, (clausePlace e.1).compile e.2) = compileEntry e
  rw [compileEntry, clauseKey, clausePlace]
  cases Logical.ofKey? e.1 <;> rfl

theorem operators_entry (e : String × Value) : operators.entry e = nativeEntry e := by
  change (nativeKey e.1, (operandPlace e.1).compile e.2) = nativeEntry e
  rw [nativeEntry, operandPlace]
  split <;> rfl

theorem ofList_compileEntries (source : Fields Value) :
    Fields.ofList (compileEntries source) = clauses.fields source := by
  rw [compileEntries_eq_map, Rewriting.fields, funext clauses_entry]

theorem ofList_nativeEntries (source : Fields Value) :
    Fields.ofList (nativeEntries source) = operators.fields source := by
  rw [nativeEntries_eq_map, Rewriting.fields, funext operators_entry]

theorem compile_map (source : Fields Value) :
    compile (.map source) = .map (clauses.fields source) := by
  rw [compile, ofList_compileEntries]

theorem compileMembers_list (items : List Value) :
    compileMembers (.list items) = .list (items.map compile) := by
  rw [compileMembers, compileItems_eq_map]

theorem compileMembers_map (source : Fields Value) :
    compileMembers (.map source) = .list [.map (clauses.fields source)] := by
  rw [compileMembers, ofList_compileEntries]

theorem compileField_map (source : Fields Value) :
    compileField (.map source) = .map (operators.fields source) := by
  rw [compileField, ofList_nativeEntries]

theorem compileOperand_map (source : Fields Value) :
    compileOperand (.map source) = .map (operators.fields source) := by
  rw [compileOperand, ofList_nativeEntries]

theorem compileElement_operators {source : Fields Value} (h : isOperatorMap source = true) :
    compileElement (.map source) = .map (operators.fields source) := by
  rw [compileElement, if_pos h, ofList_nativeEntries]

theorem compileElement_filter {source : Fields Value} (h : isOperatorMap source = false) :
    compileElement (.map source) = .map (clauses.fields source) := by
  rw [compileElement, h, if_neg Bool.false_ne_true, ofList_compileEntries]

/-! ### Maps of operators -/

/-- Keys that the operand of `elemMatch` may have for it to be taken for operators. -/
def IsOperatorKey (k : String) : Prop := isNative k = true ∨ (Operator.ofName? k).isSome = true

instance (k : String) : Decidable (IsOperatorKey k) := inferInstanceAs (Decidable (_ ∨ _))

/-- Such keys of which one is enough. -/
def IsTellingKey (k : String) : Prop :=
  isNative k = true ∨ (Operator.ofName? k).any Operator.isValueComparison = true

theorem isOperatorMap_iff (source : Fields Value) : isOperatorMap source = true ↔
    (∀ k ∈ Fields.names source, IsOperatorKey k) ∧ ∃ k ∈ Fields.names source, IsTellingKey k := by
  have hnames : isOperatorMap source =
      ((Fields.names source).all (fun k => isNative k || (Operator.ofName? k).isSome) &&
        (Fields.names source).any fun k =>
          isNative k || (Operator.ofName? k).any Operator.isValueComparison) := by
    rw [isOperatorMap, Fields.names, List.all_map, List.any_map]
    rfl
  simp only [hnames, IsOperatorKey, IsTellingKey, Bool.and_eq_true, List.all_eq_true,
    List.any_eq_true, Bool.or_eq_true]

/-- A map that names a group without the mark, and else only groups and operators. -/
def MixesGroups (source : Fields Value) : Prop :=
  (∃ g ∈ Logical.values, g.name ∈ Fields.names source) ∧
    ∀ k ∈ Fields.names source, (Logical.ofKey? k).isSome = true ∨ IsOperatorKey k

instance (source : Fields Value) : Decidable (MixesGroups source) :=
  inferInstanceAs (Decidable (_ ∧ _))

/-- Only the names of groups get another key. -/
theorem clauseKey_eq_self_or (k : String) : (∃ g : Logical, k = g.name) ∨ clauseKey k = k := by
  rw [clauseKey]
  cases hk : Logical.ofKey? k with
  | none => exact .inr rfl
  | some g =>
    rcases ofKey?_eq_some_iff.1 hk with hname | hsymbol
    · exact .inl ⟨g, hname⟩
    · exact .inr hsymbol.symm

theorem mem_names_clauses_iff {source : Fields Value} {k : String} :
    k ∈ Fields.names (clauses.fields source) ↔ ∃ j ∈ Fields.names source, clauseKey j = k :=
  Fields.mem_names_ofList_map_iff clauses.entry_fst

theorem not_isOperatorKey_logicalName (g : Logical) : ¬IsOperatorKey g.name := by
  cases g <;> decide

theorem isOperatorMap_of_mixesGroups {source : Fields Value} (h : MixesGroups source) :
    isOperatorMap source = false := by
  obtain ⟨⟨g, _, hg⟩, _⟩ := h
  rw [Bool.eq_false_iff, Ne, isOperatorMap_iff]
  exact fun ho => not_isOperatorKey_logicalName g (ho.1 _ hg)

/-- What was read as a filter is taken for operators once it is compiled exactly if it mixes groups
with operators. -/
theorem isOperatorMap_clauses_iff {source : Fields Value} (h : isOperatorMap source = false) :
    isOperatorMap (clauses.fields source) = true ↔ MixesGroups source := by
  have hkey : ∀ k, IsOperatorKey (clauseKey k) ↔
      (Logical.ofKey? k).isSome = true ∨ IsOperatorKey k := by
    intro k
    rw [clauseKey]
    cases hk : Logical.ofKey? k with
    | none => simp
    | some g => simp [IsOperatorKey, isNative_logicalSymbol]
  simp only [isOperatorMap_iff, mem_names_clauses_iff, forall_exists_index, and_imp,
    forall_apply_eq_imp_iff₂, hkey]
  constructor
  · rintro ⟨hall, k, ⟨j, hj, rfl⟩, htelling⟩
    by_cases hnamed : ∃ g ∈ Logical.values, g.name ∈ Fields.names source
    · exact ⟨hnamed, hall⟩
    · have hsame : ∀ i ∈ Fields.names source, clauseKey i = i := by
        intro i hi
        rcases clauseKey_eq_self_or i with ⟨g, rfl⟩ | hself
        · exact absurd ⟨g, by cases g <;> decide, hi⟩ hnamed
        · exact hself
      have hself : isOperatorMap source = true := by
        rw [isOperatorMap_iff]
        refine ⟨fun i hi => ?_, j, hj, hsame j hj ▸ htelling⟩
        rw [← hsame i hi, hkey]
        exact hall i hi
      rw [h] at hself
      exact absurd hself Bool.false_ne_true
  · rintro ⟨⟨g, _, hg⟩, hall⟩
    refine ⟨hall, clauseKey g.name, ⟨g.name, hg, rfl⟩, .inl ?_⟩
    rw [clauseKey, Logical.ofKey?_name]
    exact isNative_logicalSymbol g

theorem isOperatorMap_clauses_of_not_mixesGroups {source : Fields Value}
    (h : isOperatorMap source = false) (hm : ¬MixesGroups source) :
    isOperatorMap (clauses.fields source) = false := by
  rw [Bool.eq_false_iff, Ne, isOperatorMap_clauses_iff h]
  exact hm

end PagedFilter.Document
