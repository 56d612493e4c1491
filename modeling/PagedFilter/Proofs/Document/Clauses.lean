import Mathlib.Data.List.Nodup
import PagedFilter.Filter.Canonical
import PagedFilter.Proofs.Document.Keys
import PagedFilter.Proofs.Document.Matching
import PagedFilter.Proofs.Document.Reading

/-!
Filters clause by clause. A compiled filter tests every clause that no later one of the same key
replaces, and operators likewise; which clauses are replaced depends on the spelling of keys alone.
-/

namespace PagedFilter.Document

/-! ### Keys spelled twice -/

/-- No group stands under both of its keys. -/
def NamesGroupsOnce (fields : Fields Value) : Prop :=
  ∀ g : Logical, ¬(g.name ∈ Fields.names fields ∧ g.symbol ∈ Fields.names fields)

/-- The entries of a map with distinct names are all kept under names that tell them apart. -/
theorem kept_eq_self_iff_injective {fields : Fields Value} (hn : (Fields.names fields).Nodup)
    (rename : String → String) : Fields.kept rename fields = fields ↔
      ∀ j ∈ Fields.names fields, ∀ k ∈ Fields.names fields, rename j = rename k → j = k := by
  have hmap : fields.map (rename ·.1) = (Fields.names fields).map rename := by
    rw [Fields.names, List.map_map]
    rfl
  rw [Fields.kept_eq_self_iff, hmap]
  exact List.nodup_map_iff_inj_on hn

theorem kept_clauseKey_eq_self_iff {fields : Fields Value} (hn : (Fields.names fields).Nodup) :
    Fields.kept clauseKey fields = fields ↔ NamesGroupsOnce fields := by
  rw [kept_eq_self_iff_injective hn]
  constructor
  · intro hinj g hg
    have hne : g.name ≠ g.symbol := by cases g <;> decide
    have hkey : clauseKey g.name = clauseKey g.symbol :=
      (clauseKey_eq_iff hne).2 ⟨g, .inl ⟨rfl, rfl⟩⟩
    exact hne (hinj _ hg.1 _ hg.2 hkey)
  · intro honce j hj k hk hkey
    by_contra hne
    obtain ⟨g, ⟨rfl, rfl⟩ | ⟨rfl, rfl⟩⟩ := (clauseKey_eq_iff hne).1 hkey
    · exact honce g ⟨hj, hk⟩
    · exact honce g ⟨hk, hj⟩

theorem namesGroupsOnce_of_not_isNative {fields : Fields Value}
    (hk : ∀ e ∈ fields, isNative e.1 = false) : NamesGroupsOnce fields := by
  intro g hg
  obtain ⟨e, he, hsymbol⟩ := List.mem_map.1 hg.2
  have hnative := hk e he
  rw [hsymbol, isNative_logicalSymbol] at hnative
  simp at hnative

/-- No operator stands under two names that the store knows as one. -/
def NamesOperatorsOnce (operators : Fields Value) : Prop :=
  IsUnambiguous operators ∧
    ∀ k ∈ Fields.names operators, isNative k = false → nativeKey k ∉ Fields.names operators

theorem kept_nativeKey_eq_self_iff {operators : Fields Value}
    (hn : (Fields.names operators).Nodup) :
    Fields.kept nativeKey operators = operators ↔ NamesOperatorsOnce operators := by
  rw [kept_eq_self_iff_injective hn]
  constructor
  · intro hinj
    constructor
    · intro hboth
      have hkey : nativeKey "ne" = nativeKey "neq" := by decide +kernel
      exact absurd (hinj _ hboth.1 _ hboth.2 hkey) (by decide)
    · intro k hk hnative hmem
      have heq : k = nativeKey k := hinj _ hk _ hmem (nativeKey_nativeKey k).symm
      rw [heq, isNative_nativeKey] at hnative
      simp at hnative
  · rintro ⟨hu, honce⟩ j hj k hk hkey
    by_cases hnj : isNative j = true
    · by_cases hnk : isNative k = true
      · rwa [nativeKey_of_isNative hnj, nativeKey_of_isNative hnk] at hkey
      · rw [nativeKey_of_isNative hnj] at hkey
        exact absurd (hkey ▸ hj) (honce k hk (Bool.eq_false_iff.2 hnk))
    · by_cases hnk : isNative k = true
      · rw [nativeKey_of_isNative hnk] at hkey
        exact absurd (hkey ▸ hk) (honce j hj (Bool.eq_false_iff.2 hnj))
      · rcases nativeKey_injective (Bool.eq_false_iff.2 hnj) (Bool.eq_false_iff.2 hnk) hkey with
          heq | ⟨rfl, rfl⟩ | ⟨rfl, rfl⟩
        · exact heq
        · exact absurd ⟨hj, hk⟩ hu
        · exact absurd ⟨hk, hj⟩ hu

theorem namesOperatorsOnce_of_not_isNative {operators : Fields Value}
    (hk : ∀ e ∈ operators, isNative e.1 = false) (hu : IsUnambiguous operators) :
    NamesOperatorsOnce operators := by
  refine ⟨hu, fun k _ _ hmem => ?_⟩
  obtain ⟨e, he, hkey⟩ := List.mem_map.1 hmem
  have hnative := hk e he
  rw [hkey, isNative_nativeKey] at hnative
  simp at hnative

/-! ### Tests of what is kept -/

/-- Entries that are collected under rewritten names are tested as far as they are kept, in whatever
order. -/
theorem allUntil_ofList_map {rename : String → String} {f : String × Value → String × Value}
    (hf : ∀ e, (f e).1 = rename e.1) {fields : Fields Value}
    {accepts : String × Value → Except StoreError Bool} {test : String × Value → Bool}
    (h : ∀ e ∈ fields, accepts (f e) = .ok (test e)) :
    allUntil accepts (Fields.ofList (fields.map f)) =
      .ok ((Fields.kept rename fields).all test) := by
  have hp := Fields.ofList_map_perm hf fields
  have hkept : ∀ e ∈ Fields.kept rename fields, accepts (f e) = .ok (test e) := by
    intro e he
    exact h e (Fields.mem_of_mem_kept rename he)
  have hok : ∀ d ∈ Fields.ofList (fields.map f), ∃ b, accepts d = .ok b := by
    intro d hd
    obtain ⟨e, he, rfl⟩ := List.mem_map.1 (hp.mem_iff.1 hd)
    exact ⟨test e, hkept e he⟩
  rw [allUntil_perm hp hok, allUntil_map]
  exact allUntil_of_ok hkept

/-! ### Clauses -/

theorem accepts_compile_singleton (doc : Row) (e : String × Value) :
    accepts doc (compile (.map [e])) =
      acceptsClause doc (compileEntry e).1 (compileEntry e).2 := by
  have hsingle : Fields.ofList [compileEntry e] = [compileEntry e] := rfl
  rw [compile, compileEntries_eq_map, List.map_singleton, hsingle, accepts,
    acceptsClauses_eq_allUntil, allUntil_singleton]

theorem accepts_compile_kept (doc : Row) {fields : Fields Value} {clause : String × Value → Bool}
    (h : ∀ e ∈ fields, accepts doc (compile (.map [e])) = .ok (clause e)) :
    accepts doc (compile (.map fields)) =
      .ok ((Fields.kept clauseKey fields).all clause) := by
  rw [compile, compileEntries_eq_map, accepts, acceptsClauses_eq_allUntil]
  apply allUntil_ofList_map compileEntry_fst
  intro e he
  rw [← accepts_compile_singleton]
  exact h e he

/-! ### Operators -/

theorem holdsOperators_perm {as bs : Fields Value} (h : as.Perm bs) :
    holdsOperators as = holdsOperators bs := by
  have hempty : as.isEmpty = bs.isEmpty := by
    rw [Bool.eq_iff_iff, List.isEmpty_iff_length_eq_zero, List.isEmpty_iff_length_eq_zero,
      h.length_eq]
  rw [holdsOperators, holdsOperators, hempty, h.all_eq]

/-- A map of operators none of which is a group is one for the store. -/
theorem holdsOperators_nativeEntries {operators : Fields Value} (hne : operators ≠ [])
    (hk : ∀ e ∈ operators, isGroupKey (nativeKey e.1) = false) :
    holdsOperators (Fields.ofList (operators.map nativeEntry)) = true := by
  have hkept := Fields.kept_ne_nil nativeKey hne
  have hall : ((Fields.kept nativeKey operators).map nativeEntry).all
      (fun f => isNative f.1 && !isGroupKey f.1) = true := by
    rw [List.all_map, List.all_eq_true]
    intro e he
    have hgroup := hk e (Fields.mem_of_mem_kept nativeKey he)
    simp [nativeEntry, isNative_nativeKey, hgroup]
  rw [holdsOperators_perm (Fields.ofList_map_perm nativeEntry_fst operators)]
  simp [holdsOperators, hall, hkept]

/-- A key of operators that are tested one by one: it is no group and not the options of a pattern. -/
def IsIndependent (k : String) : Prop :=
  isGroupKey (nativeKey k) = false ∧ nativeKey k ≠ "$options"

instance (k : String) : Decidable (IsIndependent k) := inferInstanceAs (Decidable (_ ∧ _))

example : ∀ op ∈ [Operator.eq, .ne, .neq, .isIn, .notIn, .gt, .gte, .lt, .lte],
    IsIndependent op.name := by decide

section Operators

variable {field : String} (hf : Logical.ofKey? field = none)
include hf

theorem compileEntry_operators (operators : Fields Value) :
    compileEntry (field, .map operators) =
      (field, .map (Fields.ofList (operators.map nativeEntry))) := by
  simp only [compileEntry, hf, compileField, nativeEntries_eq_map]

/-- The store knows no operators under a native key. -/
theorem isNative_of_accepts {doc : Row} {operators : Fields Value} {b : Bool}
    (h : accepts doc (compile (.map [(field, .map operators)])) = .ok b) :
    isNative field = false := by
  by_contra hnative
  rw [accepts_compile_singleton, compileEntry_operators hf, acceptsClause] at h
  split at h
  · simp at h
  · rw [if_pos (eq_true_of_ne_false hnative)] at h
    simp at h

theorem accepts_compile_operators (doc : Row) (hn : isNative field = false)
    {operators : Fields Value} (hne : operators ≠ [])
    (hk : ∀ e ∈ operators, IsIndependent e.1) :
    accepts doc (compile (.map [(field, .map operators)])) =
      allUntil (fun d => acceptsOperator none (Value.lookup doc field) d.1 d.2)
        (Fields.ofList (operators.map nativeEntry)) := by
  have hnative := holdsOperators_nativeEntries hne fun e he => (hk e he).1
  have hoptions : Fields.find? (Fields.ofList (operators.map nativeEntry)) "$options" = none := by
    rw [Option.eq_none_iff_forall_ne_some]
    intro v hv
    have hp := Fields.ofList_map_perm nativeEntry_fst operators
    have hmem := hp.mem_iff.1 (Fields.mem_of_find? hv)
    obtain ⟨e, he, heq⟩ := List.mem_map.1 hmem
    exact (hk e (Fields.mem_of_mem_kept nativeKey he)).2 (congrArg Prod.fst heq)
  rw [accepts_compile_singleton, compileEntry_operators hf, acceptsClause_operators hn hnative,
    hoptions, acceptsOperators_eq_allUntil]

theorem accepts_compile_kept_operators {doc : Row} {operators : Fields Value}
    (hne : operators ≠ []) (hk : ∀ e ∈ operators, IsIndependent e.1)
    {operator : String × Value → Bool}
    (h : ∀ e ∈ operators, accepts doc (compile (.map [(field, .map [e])])) = .ok (operator e)) :
    accepts doc (compile (.map [(field, .map operators)])) =
      .ok ((Fields.kept nativeKey operators).all operator) := by
  obtain ⟨first, hfirst⟩ := List.exists_mem_of_ne_nil operators hne
  have hn : isNative field = false := isNative_of_accepts hf (h first hfirst)
  rw [accepts_compile_operators hf doc hn hne hk]
  refine allUntil_ofList_map nativeEntry_fst fun e he => ?_
  have halone := accepts_compile_operators hf doc hn (List.cons_ne_nil e [])
    (List.forall_mem_singleton.2 (hk e he))
  have hsingle : Fields.ofList ([e].map nativeEntry) = [nativeEntry e] := rfl
  rw [hsingle, allUntil_singleton] at halone
  rw [← halone]
  exact h e he

end Operators

/-! ### Filters -/

/-- A compiled filter is the conjunction of its clauses as each of them is tested alone, and a field's
operators are that of the operators, except for the entries that a later one replaces. At every depth
a map is compiled to the entries kept of it, and all are kept exactly if no two keys are spellings of
one. -/
theorem compiled_filter_tests_kept_clauses (doc : Row) :
    (∀ (fields : Fields Value) (clause : String × Value → Bool),
      (∀ e ∈ fields, accepts doc (compile (.map [e])) = .ok (clause e)) →
        accepts doc (compile (.map fields)) =
          .ok ((Fields.kept clauseKey fields).all clause)) ∧
    (∀ (field : String) (operators : Fields Value) (operator : String × Value → Bool),
      Logical.ofKey? field = none → operators ≠ [] → (∀ e ∈ operators, IsIndependent e.1) →
      (∀ e ∈ operators, accepts doc (compile (.map [(field, .map [e])])) = .ok (operator e)) →
        accepts doc (compile (.map [(field, .map operators)])) =
          .ok ((Fields.kept nativeKey operators).all operator)) ∧
    ∀ source : Fields Value, (Fields.names source).Nodup →
      (Fields.ofList (compileEntries source)).Perm
          ((Fields.kept clauseKey source).map compileEntry) ∧
        (Fields.kept clauseKey source = source ↔ NamesGroupsOnce source) ∧
        (Fields.ofList (nativeEntries source)).Perm
          ((Fields.kept nativeKey source).map nativeEntry) ∧
        (Fields.kept nativeKey source = source ↔ NamesOperatorsOnce source) := by
  refine ⟨?_, ?_, ?_⟩
  · intro fields clause h
    exact accepts_compile_kept doc h
  · intro field operators operator hf hne hk h
    exact accepts_compile_kept_operators hf hne hk h
  · intro source hn
    rw [compileEntries_eq_map, nativeEntries_eq_map]
    exact ⟨Fields.ofList_map_perm compileEntry_fst source, kept_clauseKey_eq_self_iff hn,
      Fields.ofList_map_perm nativeEntry_fst source, kept_nativeKey_eq_self_iff hn⟩

theorem compiled_ages_of_authors :
    let doc : Row := [("age", .int 40), ("role", .str "author")]
    let ages : Fields Value := [("gte", .int 18), ("ne", .int 40)]
    let roles : Value := .list [.map [("role", .str "author")], .map [("role", .str "editor")]]
    let fields : Fields Value := [("age", .map ages), ("or", roles)]
    NamesGroupsOnce fields ∧ NamesOperatorsOnce ages ∧
      accepts doc (compile (.map [("age", .map ages)])) = .ok false ∧
        accepts doc (compile (.map fields)) = .ok false := by
  intro doc ages roles fields
  obtain ⟨hclauses, hoperators, hkeys⟩ := compiled_filter_tests_kept_clauses doc
  have halone : ∀ e ∈ ages, accepts doc (compile (.map [("age", .map [e])])) =
      .ok (e.1 == "gte") :=
    List.forall_mem_cons.2 ⟨rfl, List.forall_mem_singleton.2 rfl⟩
  have hages : accepts doc (compile (.map [("age", .map ages)])) = .ok false :=
    hoperators "age" ages (fun e => e.1 == "gte") (by decide) (by simp [ages]) (by decide) halone
  have heach : ∀ e ∈ fields, accepts doc (compile (.map [e])) = .ok (e.1 == "or") :=
    List.forall_mem_cons.2 ⟨hages, List.forall_mem_singleton.2 rfl⟩
  have hfields : accepts doc (compile (.map fields)) = .ok false :=
    hclauses fields (fun e => e.1 == "or") heach
  have hkeptFields := (hkeys fields (by decide)).2.1.1 (by decide +kernel)
  have hkeptAges := (hkeys ages (by decide)).2.2.2.1 (by decide +kernel)
  exact ⟨hkeptFields, hkeptAges, hages, hfields⟩

/-- Two names of one operator in a map: the clause under the first name is lost. -/
theorem synonym_replaces_clause :
    let doc : Row := [("a", .int 1)]
    let both : Value := .map [("a", .map [("ne", .int 1), ("neq", .int 2)])]
    Filter.normalize both = both ∧
      accepts doc (compile (.map [("a", .map [("ne", .int 1)])])) = .ok false ∧
        accepts doc (compile (.map [("a", .map [("neq", .int 2)])])) = .ok true ∧
          accepts doc (compile both) = .ok true := by
  intro doc both
  exact ⟨rfl, rfl, rfl, rfl⟩

end PagedFilter.Document
