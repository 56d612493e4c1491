import PagedFilter.Proofs.Document.Clauses
import PagedFilter.Proofs.Document.Faults
import PagedFilter.Proofs.Document.Places
import PagedFilter.Proofs.Filter.Canonical
import PagedFilter.Proofs.Value.Order
import PagedFilter.Proofs.Value.WellFormed

/-!
Membership in a list of one value, next to the equality with that value, on documents. A field is tested
against the operand of an equality with its maps rewritten as operators, but against the items of a list
as they are. So the two are one test of the values that rewriting leaves alone, and of no others.
-/

namespace PagedFilter

/-! ### Values that compare as equal to their rewriting -/

namespace Value

theorem names_eq_of_compareFields : {as bs : Fields Value} → compareFields as bs = .eq →
    Fields.names as = Fields.names bs
  | [], [], _ => rfl
  | [], _ :: _, h => by simp [compareFields] at h
  | _ :: _, [], h => by simp [compareFields] at h
  | (j, a) :: as, (k, b) :: bs, h => by
    rw [compareFields, Ordering.then_eq_eq, Ordering.then_eq_eq] at h
    obtain ⟨⟨hname, _⟩, hrest⟩ := h
    have hnames := names_eq_of_compareFields hrest
    rw [Fields.names] at hnames ⊢
    rw [List.map_cons, hnames, Std.LawfulEqCmp.eq_of_compare hname]
    rfl

theorem compare_of_compareFields_map {f : String × Value → String × Value} {fields : Fields Value}
    (h : compareFields fields (fields.map f) = .eq) : ∀ e ∈ fields, compare e.2 (f e).2 = .eq := by
  induction fields with
  | nil => exact List.forall_mem_nil _
  | cons e rest ih =>
    rw [List.map_cons, compareFields, Ordering.then_eq_eq, Ordering.then_eq_eq] at h
    exact List.forall_mem_cons.2 ⟨h.1.2, ih h.2⟩

theorem compare_of_compareList_map {f : Value → Value} {items : List Value}
    (h : compareList items (items.map f) = .eq) : ∀ v ∈ items, compare v (f v) = .eq := by
  induction items with
  | nil => exact List.forall_mem_nil _
  | cons v rest ih =>
    rw [List.map_cons, compareList, Ordering.then_eq_eq] at h
    exact List.forall_mem_cons.2 ⟨h.1, ih h.2⟩

end Value

namespace Document

/-- Rewritten fields that compare as equal to their source are the source, if this is so of the values
within. -/
theorem Rewriting.fields_eq_self_of_compare (r : Rewriting) {source : Fields Value}
    (hsorted : Fields.Sorted source)
    (hwithin : ∀ e ∈ source, Value.compare e.2 ((r.place e.1).compile e.2) = .eq →
      (r.place e.1).compile e.2 = e.2)
    (h : Value.compareFields source (r.fields source) = .eq) : r.fields source = source := by
  -- Both have the same names, and a name that rewriting gave is rewritten to itself.
  have hkeys : ∀ e ∈ source, r.key e.1 = e.1 := by
    intro e he
    have hname : e.1 ∈ Fields.names (r.fields source) := by
      rw [← Value.names_eq_of_compareFields h]
      exact List.mem_map_of_mem he
    obtain ⟨k, _, hk⟩ := (Fields.mem_names_ofList_map_iff r.entry_fst).1 hname
    rw [← hk, r.key_key]
  have hkept : Fields.Sorted (source.map r.entry) := by
    rw [Fields.Sorted, List.pairwise_map]
    refine List.Pairwise.imp_of_mem ?_ hsorted
    intro a b ha hb hab
    rwa [r.entry_fst, r.entry_fst, hkeys a ha, hkeys b hb]
  rw [Rewriting.fields, Fields.ofList_of_sorted hkept] at h
  rw [r.fields_eq_self_iff hsorted]
  intro e he
  have hvalue := hwithin e he (Value.compare_of_compareFields_map h e he)
  rw [Rewriting.entry, hkeys e he, hvalue]

/-- A well-formed value that compares as equal to what it is compiled to is that value, whatever its
place. -/
theorem Place.compile_eq_self_of_compare {v : Value} (hw : v.WellFormed) (p : Place)
    (h : v.compare (p.compile v) = .eq) : p.compile v = v := by
  induction v using Value.inductionOn generalizing p with
  | leaf v hl hm =>
    cases p with
    | field =>
      have hkind := Value.kind_eq_of_compare h
      cases v with
      | list items => simp [Value.isList] at hl
      | map fields => simp [Value.isMap] at hm
      | _ => simp [Place.compile, compileField, Value.kind] at hkind
    | _ =>
      cases v with
      | list items => simp [Value.isList] at hl
      | map fields => simp [Value.isMap] at hm
      | _ => rfl
  | list items ih =>
    cases p with
    | members =>
      rw [Place.compile, compileMembers_list] at h ⊢
      rw [Value.compare] at h
      have hitems := (Value.wellFormedList_iff items).1 hw
      have hcompared := Value.compare_of_compareList_map h
      have hkept : items.map Document.compile = items.map id :=
        List.map_congr_left fun v hv => ih v hv (hitems v hv) .filter (hcompared v hv)
      rw [hkept, List.map_id]
    | field =>
      have hkind := Value.kind_eq_of_compare h
      simp [Place.compile, compileField, Value.kind] at hkind
    | _ => rfl
  | map fields ih =>
    obtain ⟨hsorted, hvalues⟩ := hw
    rw [Value.wellFormedFields_iff] at hvalues
    have hrewritten (r : Rewriting)
        (hr : (Value.map fields).compare (.map (r.fields fields)) = .eq) :
        Value.map (r.fields fields) = .map fields := by
      rw [Value.compare] at hr
      rw [r.fields_eq_self_of_compare hsorted (fun e he => ih e he (hvalues e he) (r.place e.1)) hr]
    cases p with
    | filter =>
      rw [Place.compile, compile_map] at h ⊢
      exact hrewritten clauses h
    | members =>
      -- A map becomes a list of one member, and so a value of another kind.
      have hkind := Value.kind_eq_of_compare h
      rw [Place.compile, compileMembers_map] at hkind
      simp [Value.kind] at hkind
    | field =>
      rw [Place.compile, compileField_map] at h ⊢
      exact hrewritten operators h
    | operand =>
      rw [Place.compile, compileOperand_map] at h ⊢
      exact hrewritten operators h
    | element =>
      rw [Place.compile] at h ⊢
      cases ho : isOperatorMap fields with
      | true =>
        rw [compileElement_operators ho] at h ⊢
        exact hrewritten operators h
      | false =>
        rw [compileElement_filter ho] at h ⊢
        exact hrewritten clauses h

end Document

/-! ### Normal forms keep maps in order -/

namespace Filter

theorem wellFormed_normalize {v : Value} (hw : v.WellFormed) : (normalize v).WellFormed := by
  induction v using Value.inductionOn with
  | leaf v hl hm => rwa [normalize_leaf hl hm]
  | list items ih =>
    rw [Value.WellFormed, Value.wellFormedList_iff] at hw
    rw [normalize_list, Value.WellFormed, Value.wellFormedList_iff]
    exact List.forall_mem_map.2 fun v hv => ih v hv (hw v hv)
  | map fields ih =>
    obtain ⟨hsorted, hvalues⟩ := hw
    rw [Value.wellFormedFields_iff] at hvalues
    cases hkeys : isIndexKeyed fields with
    | true =>
      rw [normalize_indexKeyed hkeys, Value.WellFormed, Value.wellFormedList_iff]
      refine List.forall_mem_map.2 fun v hv => ?_
      obtain ⟨f, hf, rfl⟩ := List.mem_map.1 hv
      have hmem := (StableSort.mem_sort _ fields f).1 hf
      exact ih f hmem (hvalues f hmem)
    | false =>
      rw [normalize_named hkeys, Value.WellFormed, Value.wellFormedFields_iff]
      constructor
      · rw [Fields.Sorted, List.pairwise_map]
        exact hsorted
      · refine List.forall_mem_map.2 fun f hf => ?_
        have hvalue := ih f hf (hvalues f hf)
        rw [listUnder]
        split
        · exact ⟨hvalue, trivial⟩
        · exact hvalue

end Filter

namespace Document

open PagedFilter.Filter (isIndex isIndexKeyed listUnder listUnder_of_isList
  listUnder_of_not_requiresList normalize_indexKeyed normalize_list normalize_named
  wellFormed_normalize)

/-! ### One operator on one field -/

/-- Whether a document is accepted by a filter of one operator on one field, as it is written. -/
def operatorAccepts (field operator : String) (operand : Value) (doc : Row) :
    Except StoreError Bool :=
  accepts doc (compile (Filter.normalize (.map [(field, .map [(operator, operand)])])))

/-- A test of a field's value by a filter as it is written. A field that stands for an index makes the
filter a list, and a native one is no field of the store. -/
def onField (field : String) (test : Option Value → Bool) (doc : Row) : Except StoreError Bool :=
  if isIndex field then .error (.unsupported (.filterOfType "array"))
  else if isNative field then .error (.unsupported (.key field))
  else .ok (test (Value.lookup doc field))

theorem isIndexKeyed_singleton (key : String) (v : Value) :
    isIndexKeyed [(key, v)] = isIndex key := by
  simp [isIndexKeyed]

/-- What a list holds is not rewritten. -/
theorem compileOperand_listed (key : String) (v : Value) :
    compileOperand (listUnder key (Filter.normalize (.list [v]))) = .list [Filter.normalize v] := by
  rw [normalize_list, listUnder_of_isList fun _ => rfl]
  rfl

section Fields

variable {field : String} (hfield : Logical.ofKey? field = none)
  (hlist : requiresList field = false)
include hfield hlist

/-- The operator is tested with its operand rewritten. -/
theorem operatorAccepts_eq (op : Operator) {symbol : String} (hsymbol : op.symbol? = some symbol)
    (hplain : symbol ≠ "$elemMatch") {operand : Value} {test : Option Value → Bool}
    (htest : ∀ options value, meets options value symbol
      (compileOperand (listUnder op.name (Filter.normalize operand))) = .ok (test value))
    (doc : Row) : operatorAccepts field op.name operand doc = onField field test doc := by
  have hname : isIndexKeyed [(op.name, operand)] = false := by
    rw [isIndexKeyed_singleton]
    cases op <;> decide
  have hkey : nativeKey op.name = symbol := nativeKey_of_symbol? (Operator.ofName?_name op) hsymbol
  have hkeyed := isIndexKeyed_singleton field (.map [(op.name, operand)])
  rw [operatorAccepts, onField]
  cases hindex : isIndex field with
  | true =>
    rw [normalize_indexKeyed (hkeyed.trans hindex)]
    rfl
  | false =>
    have hgroup : isGroupKey field = false := by
      rw [Bool.eq_false_iff]
      intro hg
      simp only [isGroupKey, Bool.or_eq_true, beq_iff_eq] at hg
      rcases hg with (rfl | rfl) | rfl <;> simp [Logical.ofKey?] at hfield
    have hoperators : holdsOperators
        [(symbol, compileOperand (listUnder op.name (Filter.normalize operand)))] = true := by
      simp [holdsOperators, isNative_symbol op symbol hsymbol, isGroupKey_symbol? hsymbol]
    have hentry : compileEntry
        (field, .map [(op.name, listUnder op.name (Filter.normalize operand))]) =
          (field,
            .map [(symbol, compileOperand (listUnder op.name (Filter.normalize operand)))]) := by
      rw [compileEntry, hfield]
      simp [compileField, nativeEntries, hkey, hplain, Fields.ofList, Fields.put]
    rw [normalize_named (hkeyed.trans hindex), List.map_singleton, normalize_named hname,
      List.map_singleton, listUnder_of_not_requiresList hlist, accepts_compile_singleton, hentry,
      acceptsClause]
    simp only [hgroup, hoperators, Bool.false_eq_true, if_false, if_true]
    rw [acceptsOperators_eq_allUntil, allUntil_singleton, acceptsOperator_of_ne hplain, htest]

theorem operatorAccepts_eq_onField (v : Value) (doc : Row) :
    operatorAccepts field "eq" v doc =
      onField field (equals · (compileOperand (Filter.normalize v))) doc :=
  operatorAccepts_eq hfield hlist .eq rfl (by decide) (fun _ _ => rfl) doc

theorem operatorAccepts_ne_onField (v : Value) (doc : Row) :
    operatorAccepts field "ne" v doc =
      onField field (fun value => !equals value (compileOperand (Filter.normalize v))) doc :=
  operatorAccepts_eq hfield hlist .ne rfl (by decide) (fun _ _ => rfl) doc

theorem operatorAccepts_in_onField (v : Value) (doc : Row) :
    operatorAccepts field "in" (.list [v]) doc =
      onField field (equals · (Filter.normalize v)) doc := by
  refine operatorAccepts_eq hfield hlist .isIn rfl (by decide) (fun _ value => ?_) doc
  rw [compileOperand_listed, ← isMember_singleton]
  rfl

theorem operatorAccepts_nin_onField (v : Value) (doc : Row) :
    operatorAccepts field "nin" (.list [v]) doc =
      onField field (fun value => !equals value (Filter.normalize v)) doc := by
  refine operatorAccepts_eq hfield hlist .notIn rfl (by decide) (fun _ value => ?_) doc
  rw [compileOperand_listed, ← isMember_singleton]
  rfl

end Fields

/-! ### One value -/

theorem equals_some_self (v : Value) : equals (some v) v = true := by
  cases v with
  | null => rfl
  | list items => simp [equals, Value.isList, Value.looseEq_self]
  | _ => exact Value.looseEq_self _

/-- A document that holds the value itself tells it from its rewriting. -/
theorem compileOperand_eq_self_of_equals {v : Value} (hw : v.WellFormed)
    (h : equals (some v) (compileOperand v) = true) : compileOperand v = v := by
  cases v with
  | map fields =>
    have hcompare : Value.compare (.map fields) (compileOperand (.map fields)) = .eq := by
      simpa [equals, Value.looseEq] using h
    exact Place.compile_eq_self_of_compare hw .operand hcompare
  | _ => rfl

/-- Both tests, or both turned around, agree on all documents exactly if rewriting leaves the value
alone. -/
theorem forall_onField_iff {field : String} (hindex : isIndex field = false)
    (hnative : isNative field = false) {v : Value} (hw : v.WellFormed) {g : Bool → Bool}
    (hg : ∀ a b, g a = g b → a = b) :
    (∀ doc, onField field (fun value => g (equals value (compileOperand v))) doc =
        onField field (fun value => g (equals value v)) doc) ↔ compileOperand v = v := by
  constructor
  · intro hsame
    have hlookup : Value.lookup [(field, v)] field = some v := by
      simp [Value.lookup, Fields.find?]
    have htest := hsame [(field, v)]
    simp only [onField, hindex, hnative, hlookup, Bool.false_eq_true, if_false,
      Except.ok.injEq] at htest
    refine compileOperand_eq_self_of_equals hw ?_
    rw [hg _ _ htest, equals_some_self]
  · intro hself doc
    rw [hself]

/-- Documents are accepted alike by `eq` with an operand and by `in` with a list of one value, and
alike by `ne` and `nin`, where that value has the operand's canonical form, rewritten, for its own. Only
maps are rewritten. Under a field of documents the list may hold the operand itself exactly if rewriting
leaves its canonical form alone. -/
theorem singleton_membership_accepts {field : String} (hfield : Logical.ofKey? field = none)
    (hlist : requiresList field = false) (v : Value) :
    (∀ u, Filter.normalize u = compileOperand (Filter.normalize v) → ∀ doc,
      operatorAccepts field "eq" v doc = operatorAccepts field "in" (.list [u]) doc ∧
        operatorAccepts field "ne" v doc = operatorAccepts field "nin" (.list [u]) doc) ∧
    ((Filter.normalize v).isMap = false →
      compileOperand (Filter.normalize v) = Filter.normalize v) ∧
    (isIndex field = false → isNative field = false → v.WellFormed →
      ((∀ doc, operatorAccepts field "eq" v doc = operatorAccepts field "in" (.list [v]) doc) ↔
        compileOperand (Filter.normalize v) = Filter.normalize v) ∧
      ((∀ doc, operatorAccepts field "ne" v doc = operatorAccepts field "nin" (.list [v]) doc) ↔
        compileOperand (Filter.normalize v) = Filter.normalize v)) := by
  simp only [operatorAccepts_eq_onField hfield hlist, operatorAccepts_ne_onField hfield hlist,
    operatorAccepts_in_onField hfield hlist, operatorAccepts_nin_onField hfield hlist]
  refine ⟨?_, ?_, ?_⟩
  · intro u hu doc
    rw [hu]
    exact ⟨rfl, rfl⟩
  · intro hmap
    cases hv : Filter.normalize v with
    | map fields =>
      rw [hv] at hmap
      cases hmap
    | _ => rfl
  · intro hindex hnative hw
    have hnormal := wellFormed_normalize hw
    have hnot : ∀ a b : Bool, (!a) = (!b) → a = b := by decide
    exact ⟨forall_onField_iff hindex hnative hnormal fun _ _ => id,
      forall_onField_iff hindex hnative hnormal hnot⟩

theorem point_of_scores_alone :
    let place : Value := .map [("x", .int 1)]
    let native : Value := .map [("$x", .int 1)]
    let doc : Row := [("at", native), ("scores", .list [.int 7, .int 9])]
    operatorAccepts "scores" "in" (.list [.int 9]) doc = .ok true ∧
      operatorAccepts "scores" "nin" (.list [.int 9]) doc = .ok false ∧
      operatorAccepts "at" "eq" place doc = operatorAccepts "at" "in" (.list [native]) doc ∧
      operatorAccepts "at" "eq" place doc = .ok true ∧
      ¬∀ doc, operatorAccepts "at" "ne" place doc =
        operatorAccepts "at" "nin" (.list [place]) doc := by
  intro place native doc
  have hplain : Filter.normalize (.int 9) = compileOperand (Filter.normalize (.int 9)) := rfl
  have hnative : Filter.normalize native = compileOperand (Filter.normalize place) := by
    decide +kernel
  have hchanged : compileOperand (Filter.normalize place) ≠ Filter.normalize place := by
    decide +kernel
  have hw : place.WellFormed := by decide +kernel
  obtain ⟨hscores, -⟩ := singleton_membership_accepts
    (rfl : Logical.ofKey? "scores" = none) (by decide) (.int 9)
  obtain ⟨hplaces, -, hexactly⟩ := singleton_membership_accepts
    (rfl : Logical.ofKey? "at" = none) (by decide) place
  obtain ⟨heq, hne⟩ := hscores (.int 9) hplain doc
  refine ⟨heq.symm.trans (by decide +kernel), hne.symm.trans (by decide +kernel),
    (hplaces native hnative doc).1, by decide +kernel, fun hsame => hchanged ?_⟩
  exact (hexactly (by decide) (by decide) hw).2.1 hsame

/-- A map is found in a list that holds it and is not equal to it. Under a field that is named like a
list key both operators are taken for values themselves. -/
theorem map_differs_from_itself_in_list :
    let place : Value := .map [("x", .int 1)]
    let doc : Row := [("at", place), ("in", .map [("eq", .int 1)])]
    operatorAccepts "at" "eq" place doc = .ok false ∧
      operatorAccepts "at" "in" (.list [place]) doc = .ok true ∧
      operatorAccepts "at" "ne" place doc = .ok true ∧
      operatorAccepts "at" "nin" (.list [place]) doc = .ok false ∧
      operatorAccepts "in" "eq" (.int 1) doc = .ok true ∧
      operatorAccepts "in" "in" (.list [.int 1]) doc = .ok false := by
  intro place doc
  decide +kernel

end Document

end PagedFilter
