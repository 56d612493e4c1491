import PagedFilter.Proofs.Document.Places
import PagedFilter.Proofs.Filter.Canonical

/-!
Compiling what is compiled already. A second pass finds every value in the same place again, and only
the operand of `elemMatch` may be read otherwise then: where it names a group without the mark, it is a
filter for the element, but the group's symbol is a native key, and if all other keys are words of
operators the operand is taken for operators. After the second pass nothing changes any more.
-/

namespace PagedFilter.Document

/-! ### The second pass -/

theorem isNative_of_mem_operators {source : Fields Value} :
    ∀ e ∈ operators.fields source, isNative e.1 = true := by
  intro e he
  obtain ⟨d, _, rfl⟩ := operators.mem_fields_iff.1 he
  exact isNative_nativeKey d.1

theorem compileElement_of_isNative {source : Fields Value}
    (h : ∀ e ∈ source, isNative e.1 = true) :
    compileElement (.map source) = .map (operators.fields source) := by
  cases source with
  | nil => rfl
  | cons e rest =>
    apply compileElement_operators
    rw [isOperatorMap_iff, Fields.names, List.forall_mem_map]
    refine ⟨fun d hd => .inl (h d hd), e.1, List.mem_cons_self, .inl (h e List.mem_cons_self)⟩

theorem settles_leaf {v : Value} (hl : v.isList = false) (hm : v.isMap = false) (p : Place) :
    p.Settles v := by
  cases v with
  | list items => simp [Value.isList] at hl
  | map fields => simp [Value.isMap] at hm
  | _ => cases p <;> rfl

theorem settles_list {p : Place} (hp : p ≠ .members) (items : List Value) :
    p.Settles (.list items) := by
  cases p with
  | members => exact absurd rfl hp
  | _ => rfl

theorem settles_members_list_iff (items : List Value) :
    Place.members.Settles (.list items) ↔ ∀ v ∈ items, Place.filter.Settles v := by
  simp only [Place.Settles, Place.compile, compileMembers_list, List.map_map, Value.list.injEq,
    List.map_inj_left, Function.comp_apply]

theorem settles_members_map_iff (source : Fields Value) :
    Place.members.Settles (.map source) ↔ Place.filter.Settles (.map source) := by
  simp only [Place.Settles, Place.compile, compileMembers_map, compileMembers_list, compile_map,
    List.map_cons, List.map_nil, Value.list.injEq, List.cons.injEq, and_true]

theorem settles_filter_map_iff (source : Fields Value) : Place.filter.Settles (.map source) ↔
    ∀ e ∈ Fields.kept clauseKey source, (clausePlace e.1).Settles e.2 := by
  rw [Place.Settles, Place.compile, compile_map, compile_map, Value.map.injEq]
  exact clauses.fields_fields_iff source

/-- Operators settle alike under a field and within an operand. -/
theorem settles_operators_iff {p : Place} (hp : p = .field ∨ p = .operand) (source : Fields Value) :
    p.Settles (.map source) ↔
      ∀ e ∈ Fields.kept nativeKey source, (operandPlace e.1).Settles e.2 := by
  have hsame : ∀ source, p.compile (.map source) = .map (operators.fields source) := by
    rcases hp with rfl | rfl
    · exact compileField_map
    · exact compileOperand_map
  rw [Place.Settles, hsame, hsame, Value.map.injEq]
  exact operators.fields_fields_iff source

theorem settles_element_operators_iff {source : Fields Value} (h : isOperatorMap source = true) :
    Place.element.Settles (.map source) ↔ Place.operand.Settles (.map source) := by
  simp only [Place.Settles, Place.compile, compileElement_operators h, compileOperand_map,
    compileElement_of_isNative isNative_of_mem_operators]

theorem settles_element_filter_iff {source : Fields Value} (h : isOperatorMap source = false)
    (hm : ¬MixesGroups source) :
    Place.element.Settles (.map source) ↔ Place.filter.Settles (.map source) := by
  simp only [Place.Settles, Place.compile, compileElement_filter h,
    compileElement_filter (isOperatorMap_clauses_of_not_mixesGroups h hm), compile_map]

/-- The members of a group are no operand that is compiled. -/
theorem compile_operandPlace_members (k : String) (v : Value) :
    (operandPlace k).compile (compileMembers v) = compileMembers v := by
  rw [operandPlace]
  cases v <;> split <;> rfl

/-- What a field holds is compiled to a map of native keys. -/
theorem exists_compileField_eq (v : Value) :
    ∃ source, compileField v = .map source ∧ ∀ e ∈ source, isNative e.1 = true := by
  have hin : isNative "$in" = true := by decide
  have heq : isNative "$eq" = true := by decide
  cases v with
  | map source => exact ⟨_, compileField_map source, isNative_of_mem_operators⟩
  | list items => exact ⟨_, rfl, List.forall_mem_singleton.2 hin⟩
  | _ => exact ⟨_, rfl, List.forall_mem_singleton.2 heq⟩

/-- The operators of a field are compiled as an operand as they are under a field. -/
theorem compile_operandPlace_field (k : String) (v : Value) :
    (operandPlace k).compile (compileField v) = compileField (compileField v) := by
  obtain ⟨source, heq, hnative⟩ := exists_compileField_eq v
  rw [heq, compileField_map, operandPlace]
  split
  · exact compileElement_of_isNative hnative
  · exact compileOperand_map source

/-- An operand that mixes groups with operators is read as a filter first and as operators then. The
members of its groups stay, since they are in a list. -/
theorem settles_element_mixed_iff {source : Fields Value} (h : MixesGroups source) :
    Place.element.Settles (.map source) ↔ ∀ e ∈ Fields.kept clauseKey source,
      Logical.ofKey? e.1 = none → isNative e.1 = true ∧ Place.field.Settles e.2 := by
  have hfirst := isOperatorMap_of_mixesGroups h
  have hthen := (isOperatorMap_clauses_iff hfirst).2 h
  rw [Place.Settles, Place.compile, compileElement_filter hfirst, compileElement_operators hthen,
    Value.map.injEq, operators.fields_eq_self_iff (clauses.sorted_fields source)]
  simp only [clauses.mem_fields_iff, forall_exists_index, and_imp, forall_apply_eq_imp_iff₂]
  refine forall₂_congr fun e _ => ?_
  change (nativeKey (clauses.entry e).1,
    (operandPlace (clauses.entry e).1).compile (clauses.entry e).2) = clauses.entry e ↔ _
  rw [clauses_entry, compileEntry]
  cases hk : Logical.ofKey? e.1 with
  | some g =>
    simp [compile_operandPlace_members, nativeKey_of_isNative (isNative_logicalSymbol g)]
  | none =>
    simp only [Prod.mk.injEq, nativeKey_eq_self_iff, compile_operandPlace_field, forall_const]
    rfl

/-! ### Settled filters -/

/-- Filters of which a second compilation leaves what the first one made, as they stand at a place. -/
inductive IsSettled : Place → Value → Prop
  | leaf {p v} (hl : v.isList = false) (hm : v.isMap = false) : IsSettled p v
  | list {p items} (hp : p ≠ .members) : IsSettled p (.list items)
  | members {items} (h : ∀ v ∈ items, IsSettled .filter v) : IsSettled .members (.list items)
  | member {source} (h : IsSettled .filter (.map source)) : IsSettled .members (.map source)
  | clauses {source}
      (h : ∀ e ∈ Fields.kept clauseKey source, IsSettled (clausePlace e.1) e.2) :
      IsSettled .filter (.map source)
  | operators {p source} (hp : p = .field ∨ p = .operand)
      (h : ∀ e ∈ Fields.kept nativeKey source, IsSettled (operandPlace e.1) e.2) :
      IsSettled p (.map source)
  | elements {source} (ho : isOperatorMap source = true) (h : IsSettled .operand (.map source)) :
      IsSettled .element (.map source)
  | element {source} (ho : isOperatorMap source = false) (hm : ¬MixesGroups source)
      (h : IsSettled .filter (.map source)) : IsSettled .element (.map source)
  | mixed {source} (hm : MixesGroups source)
      (hn : ∀ e ∈ Fields.kept clauseKey source, Logical.ofKey? e.1 = none → isNative e.1 = true)
      (h : ∀ e ∈ Fields.kept clauseKey source, Logical.ofKey? e.1 = none → IsSettled .field e.2) :
      IsSettled .element (.map source)

theorem isSettled_filter_map_iff (source : Fields Value) : IsSettled .filter (.map source) ↔
    ∀ e ∈ Fields.kept clauseKey source, IsSettled (clausePlace e.1) e.2 := by
  constructor
  · intro h
    cases h with
    | leaf _ hm => simp [Value.isMap] at hm
    | clauses h => exact h
    | operators hp _ => simp at hp
  · exact .clauses

theorem isSettled_operators_iff {p : Place} (hp : p = .field ∨ p = .operand)
    (source : Fields Value) : IsSettled p (.map source) ↔
      ∀ e ∈ Fields.kept nativeKey source, IsSettled (operandPlace e.1) e.2 := by
  constructor
  · intro h
    cases h with
    | leaf _ hm => simp [Value.isMap] at hm
    | operators _ h => exact h
    | _ => simp at hp
  · exact .operators hp

theorem isSettled_members_list_iff (items : List Value) :
    IsSettled .members (.list items) ↔ ∀ v ∈ items, IsSettled .filter v := by
  constructor
  · intro h
    cases h with
    | leaf hl _ => simp [Value.isList] at hl
    | list hp => exact absurd rfl hp
    | members h => exact h
  · exact .members

theorem isSettled_members_map_iff (source : Fields Value) :
    IsSettled .members (.map source) ↔ IsSettled .filter (.map source) := by
  constructor
  · intro h
    cases h with
    | leaf _ hm => simp [Value.isMap] at hm
    | member h => exact h
    | operators hp _ => simp at hp
  · exact .member

theorem isSettled_element_operators_iff {source : Fields Value} (h : isOperatorMap source = true) :
    IsSettled .element (.map source) ↔ IsSettled .operand (.map source) := by
  constructor
  · intro hs
    cases hs with
    | leaf _ hm => simp [Value.isMap] at hm
    | operators hp _ => simp at hp
    | elements _ hs => exact hs
    | element ho _ _ => simp [h] at ho
    | mixed hm _ _ => simp [isOperatorMap_of_mixesGroups hm] at h
  · exact .elements h

theorem isSettled_element_filter_iff {source : Fields Value} (h : isOperatorMap source = false)
    (hm : ¬MixesGroups source) :
    IsSettled .element (.map source) ↔ IsSettled .filter (.map source) := by
  constructor
  · intro hs
    cases hs with
    | leaf _ hm => simp [Value.isMap] at hm
    | operators hp _ => simp at hp
    | elements ho _ => simp [h] at ho
    | element _ _ hs => exact hs
    | mixed hmixed _ _ => exact absurd hmixed hm
  · exact .element h hm

theorem isSettled_element_mixed_iff {source : Fields Value} (h : MixesGroups source) :
    IsSettled .element (.map source) ↔ ∀ e ∈ Fields.kept clauseKey source,
      Logical.ofKey? e.1 = none → isNative e.1 = true ∧ IsSettled .field e.2 := by
  constructor
  · intro hs
    cases hs with
    | leaf _ hm => simp [Value.isMap] at hm
    | operators hp _ => simp at hp
    | elements ho _ => simp [isOperatorMap_of_mixesGroups h] at ho
    | element _ hm _ => exact absurd h hm
    | mixed _ hn hs => exact fun e he hk => ⟨hn e he hk, hs e he hk⟩
  · intro hs
    exact .mixed h (fun e he hk => (hs e he hk).1) fun e he hk => (hs e he hk).2

/-- By induction on the value, at all places: each of them reads a map in its own way. -/
theorem settles_iff_isSettled (v : Value) : ∀ p : Place, p.Settles v ↔ IsSettled p v := by
  induction v using Value.inductionOn with
  | leaf v hl hm =>
    intro p
    exact iff_of_true (settles_leaf hl hm p) (.leaf hl hm)
  | list items ih =>
    intro p
    by_cases hp : p = .members
    · subst hp
      rw [settles_members_list_iff, isSettled_members_list_iff]
      exact forall₂_congr fun v hv => ih v hv .filter
    · exact iff_of_true (settles_list hp items) (.list hp)
  | map source ih =>
    have hfilter : Place.filter.Settles (.map source) ↔ IsSettled .filter (.map source) := by
      rw [settles_filter_map_iff, isSettled_filter_map_iff]
      exact forall₂_congr fun e he => ih e (Fields.mem_of_mem_kept _ he) _
    have hoperators : ∀ {p : Place}, p = .field ∨ p = .operand →
        (p.Settles (.map source) ↔ IsSettled p (.map source)) := by
      intro p hp
      rw [settles_operators_iff hp, isSettled_operators_iff hp]
      exact forall₂_congr fun e he => ih e (Fields.mem_of_mem_kept _ he) _
    intro p
    cases p with
    | filter => exact hfilter
    | members => rw [settles_members_map_iff, isSettled_members_map_iff, hfilter]
    | field => exact hoperators (.inl rfl)
    | operand => exact hoperators (.inr rfl)
    | element =>
      by_cases hm : MixesGroups source
      · rw [settles_element_mixed_iff hm, isSettled_element_mixed_iff hm]
        refine forall₂_congr fun e he => imp_congr_right fun _ => and_congr_right fun _ => ?_
        exact ih e (Fields.mem_of_mem_kept _ he) .field
      · cases ho : isOperatorMap source with
        | true =>
          rw [settles_element_operators_iff ho, isSettled_element_operators_iff ho]
          exact hoperators (.inr rfl)
        | false =>
          rw [settles_element_filter_iff ho hm, isSettled_element_filter_iff ho hm]
          exact hfilter

/-! ### Operands of `elemMatch` -/

mutual

/-- The maps that stand under `elemMatch`, at any depth. -/
def elements : Value → List (Fields Value)
  | .list items => elementsOfItems items
  | .map fields => elementsOfFields fields
  | _ => []

def elementsOfItems : List Value → List (Fields Value)
  | [] => []
  | v :: rest => elements v ++ elementsOfItems rest

def elementsOfFields : List (String × Value) → List (Fields Value)
  | [] => []
  | (k, v) :: rest =>
    (if nativeKey k = "$elemMatch" then v.map?.toList else []) ++ elements v ++
      elementsOfFields rest

end

theorem mem_elementsOfItems_iff {items : List Value} {m : Fields Value} :
    m ∈ elementsOfItems items ↔ ∃ v ∈ items, m ∈ elements v := by
  induction items with
  | nil => simp [elementsOfItems]
  | cons v rest ih => simp [elementsOfItems, ih]

theorem mem_elementsOfFields_iff {fields : Fields Value} {m : Fields Value} :
    m ∈ elementsOfFields fields ↔
      ∃ e ∈ fields, (nativeKey e.1 = "$elemMatch" ∧ e.2 = .map m) ∨ m ∈ elements e.2 := by
  induction fields with
  | nil => simp [elementsOfFields]
  | cons e rest ih =>
    obtain ⟨k, v⟩ := e
    by_cases hk : nativeKey k = "$elemMatch"
    · simp [elementsOfFields, hk, ih, Value.map?_eq_some_iff, or_assoc]
    · simp [elementsOfFields, hk, ih]

theorem clausePlace_ne_element (k : String) : clausePlace k ≠ .element := by
  rw [clausePlace]
  split <;> simp

theorem operandPlace_eq_element_iff (k : String) :
    operandPlace k = .element ↔ nativeKey k = "$elemMatch" := by
  rw [operandPlace]
  split
  · next hk => exact iff_of_true rfl hk
  · next hk => exact iff_of_false (by simp) hk

/-- A filter is settled if none of the operands of `elemMatch` in it mixes groups with operators. -/
theorem isSettled_of_elements (v : Value) : ∀ p : Place, (∀ m ∈ elements v, ¬MixesGroups m) →
    (p = .element → ∀ m, v = .map m → ¬MixesGroups m) → IsSettled p v := by
  induction v using Value.inductionOn with
  | leaf v hl hm => exact fun p _ _ => .leaf hl hm
  | list items ih =>
    intro p h _
    by_cases hp : p = .members
    · subst hp
      refine .members fun v hv => ih v hv .filter (fun m hm => ?_) (by simp)
      exact h m (mem_elementsOfItems_iff.2 ⟨v, hv, hm⟩)
    · exact .list hp
  | map source ih =>
    intro p h hself
    have hwithin : ∀ e ∈ source, ∀ m ∈ elements e.2, ¬MixesGroups m :=
      fun e he m hm => h m (mem_elementsOfFields_iff.2 ⟨e, he, .inr hm⟩)
    have hfilter : IsSettled .filter (.map source) := by
      refine .clauses fun e he => ?_
      have hmem := Fields.mem_of_mem_kept _ he
      exact ih e hmem _ (hwithin e hmem) fun hp => absurd hp (clausePlace_ne_element e.1)
    have hoperators : ∀ {p : Place}, p = .field ∨ p = .operand → IsSettled p (.map source) := by
      intro p hp
      refine .operators hp fun e he => ?_
      have hmem := Fields.mem_of_mem_kept _ he
      refine ih e hmem _ (hwithin e hmem) fun hplace m hm => h m ?_
      exact mem_elementsOfFields_iff.2
        ⟨e, hmem, .inl ⟨(operandPlace_eq_element_iff e.1).1 hplace, hm⟩⟩
    cases p with
    | filter => exact hfilter
    | members => exact .member hfilter
    | field => exact hoperators (.inl rfl)
    | operand => exact hoperators (.inr rfl)
    | element =>
      have hm : ¬MixesGroups source := hself rfl source rfl
      cases ho : isOperatorMap source with
      | true => exact .elements ho (hoperators (.inr rfl))
      | false => exact .element ho hm hfilter

/-! ### The third pass -/

/-- A compiled filter names no group without the mark. -/
theorem not_mixesGroups_clauses (source : Fields Value) : ¬MixesGroups (clauses.fields source) := by
  rintro ⟨⟨g, _, hg⟩, _⟩
  obtain ⟨j, _, hj⟩ := mem_names_clauses_iff.1 hg
  have hname : clauseKey g.name = g.name := by rw [← hj, clauseKey_clauseKey]
  rw [clauseKey, Logical.ofKey?_name] at hname
  exact absurd hname (by cases g <;> decide)

theorem settles_of_mixed {source : Fields Value} (h : MixesGroups source)
    (ih : ∀ e ∈ source, Place.field.Settles (compileField e.2)) :
    Place.element.Settles (.map (clauses.fields source)) := by
  have hthen := (isOperatorMap_clauses_iff (isOperatorMap_of_mixesGroups h)).2 h
  rw [settles_element_operators_iff hthen, settles_operators_iff (.inr rfl)]
  intro e he
  obtain ⟨d, hd, rfl⟩ := clauses.mem_fields_iff.1 (Fields.mem_of_mem_kept _ he)
  have hfield := ih d (Fields.mem_of_mem_kept _ hd)
  rw [clauses_entry, compileEntry]
  cases Logical.ofKey? d.1 with
  | some g =>
    simp only [Place.Settles, compile_operandPlace_members]
  | none =>
    simp only [Place.Settles, compile_operandPlace_field]
    exact hfield

/-- By induction on the value: what was read otherwise in the second pass is operators for good. -/
theorem settles_compile (v : Value) : ∀ p : Place, p.Settles (p.compile v) := by
  induction v using Value.inductionOn with
  | leaf v hl hm => exact fun p => (settles_leaf hl hm p).compile
  | list items ih =>
    intro p
    by_cases hp : p = .members
    · subst hp
      rw [Place.compile, compileMembers_list, settles_members_list_iff, List.forall_mem_map]
      exact fun v hv => ih v hv .filter
    · exact (settles_list hp items).compile
  | map source ih =>
    have hfilter : Place.filter.Settles (.map (clauses.fields source)) := by
      simp only [Place.Settles, Place.compile, compile_map, Value.map.injEq]
      exact clauses.fields_fields_fields fun e he => ih e he _
    have hoperators : operators.fields (operators.fields (operators.fields source)) =
        operators.fields (operators.fields source) :=
      operators.fields_fields_fields fun e he => ih e he _
    intro p
    cases p with
    | filter =>
      rw [Place.compile, compile_map]
      exact hfilter
    | members =>
      rw [Place.compile, compileMembers_map, settles_members_list_iff, List.forall_mem_singleton]
      exact hfilter
    | field =>
      simp only [Place.Settles, Place.compile, compileField_map, hoperators]
    | operand =>
      simp only [Place.Settles, Place.compile, compileOperand_map, hoperators]
    | element =>
      cases ho : isOperatorMap source with
      | true =>
        simp only [Place.Settles, Place.compile, compileElement_operators ho,
          compileElement_of_isNative isNative_of_mem_operators, hoperators]
      | false =>
        rw [Place.compile, compileElement_filter ho]
        by_cases hm : MixesGroups source
        · exact settles_of_mixed hm fun e he => ih e he .field
        · have hagain := isOperatorMap_clauses_of_not_mixesGroups ho hm
          rw [settles_element_filter_iff hagain (not_mixesGroups_clauses source)]
          exact hfilter

/-- Compiling a compiled filter changes nothing exactly if the filter is settled, so wherever no operand
of `elemMatch` mixes the names of groups with operators. Whatever the second pass changes, the third
leaves. -/
theorem compiled_filter_settles (filter : Value) :
    (compile (compile filter) = compile filter ↔ IsSettled .filter filter) ∧
      ((∀ m ∈ elements filter, ¬MixesGroups m) → compile (compile filter) = compile filter) ∧
      compile (compile (compile filter)) = compile (compile filter) := by
  have hiff := settles_iff_isSettled filter .filter
  refine ⟨hiff, fun h => hiff.2 ?_, settles_compile filter .filter⟩
  exact isSettled_of_elements filter .filter h (by simp)

theorem settled_filter_of_elements :
    let orders : Value := .map [("or", .list [.map [("kind", .str "book")]]), ("sum", .int 3)]
    let filter : Value := .map [("marks", .map [("elemMatch", .map [("gte", .int 80)])]),
      ("orders", .map [("elemMatch", orders)])]
    (∀ m ∈ elements filter, ¬MixesGroups m) ∧ compile (compile filter) = compile filter := by
  intro orders filter
  have hnone : ∀ m ∈ elements filter, ¬MixesGroups m := by decide +kernel
  exact ⟨hnone, (compiled_filter_settles filter).2.1 hnone⟩

/-- Beside a group, an element's field with the name of an operator becomes that operator in the second
pass. What the first pass made accepts the element with that field, and what the second made is no
filter that the store knows. -/
theorem field_beside_group_becomes_operator :
    let operand : Value := .map [("or", .list [.map [("b", .int 1)]]), ("type", .str "x")]
    let filter : Value := .map [("a", .map [("elemMatch", operand)])]
    let group : String × Value := ("$or", .list [.map [("b", .map [("$eq", .int 1)])]])
    let once : Value :=
      .map [("a", .map [("$elemMatch", .map [group, ("type", .map [("$eq", .str "x")])])])]
    let twice : Value :=
      .map [("a", .map [("$elemMatch", .map [group, ("$type", .map [("$eq", .str "x")])])])]
    let doc : Row := [("a", .list [.map [("b", .int 1), ("type", .str "x")]])]
    Filter.normalize filter = filter ∧ compile filter = once ∧ compile once = twice ∧ twice ≠ once ∧
      accepts doc once = .ok true ∧ accepts doc twice = .error (.unsupported (.key "$type")) := by
  exact ⟨rfl, rfl, rfl, by decide, rfl, rfl⟩

end PagedFilter.Document
