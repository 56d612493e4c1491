import PagedFilter.Filter.Canonical
import PagedFilter.Proofs.Document.Clauses
import PagedFilter.Proofs.Value.WellFormed

/-!
A compiled filter accepts a document exactly if the filter, read as it is written, holds of it. No
clause of the compiled filter is an error, so the order in which clauses are tested is of no
consequence.
-/

namespace PagedFilter.Document

/-! ### Keys -/

/-- The keys of a filter, or of operators. -/
def Role.HasKey : Role → String → Prop
  | .filter, k => isNative k = false
  | .operators _, k => IsDocumentName k

theorem isDocumentName_of_takesAny {k : String} {op : Operator} (hk : Operator.ofName? k = some op)
    (hop : takesAny op = true) : IsDocumentName k := by
  cases op <;> first | exact ⟨_, _, hk, rfl⟩ | simp [takesAny] at hop

theorem isDocumentName_elemMatch : IsDocumentName "elemMatch" := ⟨.elemMatch, _, by decide, rfl⟩

theorem isDocumentName_regex : IsDocumentName "regex" := ⟨.regex, _, by decide, rfl⟩

theorem IsReadable.hasKey {role : Role} {fields : Fields Value} (h : IsReadable role fields) :
    ∀ e ∈ fields, role.HasKey e.1 := by
  induction h with
  | nil => simp
  | group hn _ _ _ _ ih => exact List.forall_mem_cons.2 ⟨hn, ih⟩
  | operated hk _ _ _ _ _ ih => exact List.forall_mem_cons.2 ⟨hk.1, ih⟩
  | bare hk _ _ ih => exact List.forall_mem_cons.2 ⟨hk.1, ih⟩
  | plain hk hop _ ih => exact List.forall_mem_cons.2 ⟨isDocumentName_of_takesAny hk hop, ih⟩
  | regex _ _ ih => exact List.forall_mem_cons.2 ⟨isDocumentName_regex, ih⟩
  | elements _ _ _ _ _ ih => exact List.forall_mem_cons.2 ⟨isDocumentName_elemMatch, ih⟩
  | members _ _ _ _ ih => exact List.forall_mem_cons.2 ⟨isDocumentName_elemMatch, ih⟩
  | noElement _ _ ih => exact List.forall_mem_cons.2 ⟨isDocumentName_elemMatch, ih⟩

theorem isOperatorMap_eq_testsElements {fields : Fields Value}
    (h : ∀ e ∈ fields, isNative e.1 = false) : isOperatorMap fields = testsElements fields := by
  have hall : fields.all (fun e => isNative e.1 || (Operator.ofName? e.1).isSome) =
      fields.all fun e => (Operator.ofName? e.1).isSome := by
    rw [Bool.eq_iff_iff, List.all_eq_true, List.all_eq_true]
    refine forall_congr' fun e => imp_congr_right fun he => ?_
    rw [h e he, Bool.false_or]
  have hany : fields.any (fun e => isNative e.1 ||
      (Operator.ofName? e.1).any Operator.isValueComparison) =
        fields.any fun e => (Operator.ofName? e.1).any Operator.isValueComparison := by
    rw [Bool.eq_iff_iff, List.any_eq_true, List.any_eq_true]
    refine exists_congr fun e => and_congr_right fun he => ?_
    rw [h e he, Bool.false_or]
  rw [isOperatorMap, testsElements, hall, hany]

/-! ### What is compiled -/

theorem kept_clauseKey_of_not_isNative {fields : Fields Value} (hn : (Fields.names fields).Nodup)
    (hk : ∀ e ∈ fields, isNative e.1 = false) : Fields.kept clauseKey fields = fields :=
  (kept_clauseKey_eq_self_iff hn).2 (namesGroupsOnce_of_not_isNative hk)

theorem kept_nativeKey_of_isDocumentName {operators : Fields Value}
    (hn : (Fields.names operators).Nodup) (hk : ∀ e ∈ operators, IsDocumentName e.1)
    (hu : IsUnambiguous operators) : Fields.kept nativeKey operators = operators := by
  rw [kept_nativeKey_eq_self_iff hn]
  exact namesOperatorsOnce_of_not_isNative (fun e he => isNative_of_isDocumentName (hk e he)) hu

theorem isGroupKey_nativeKey {k : String} (h : IsDocumentName k) :
    isGroupKey (nativeKey k) = false := by
  obtain ⟨op, s, hop, hs⟩ := h
  rw [nativeKey_of_symbol? hop hs]
  exact isGroupKey_symbol? hs

/-- The store takes no compiled filter for operators. -/
theorem holdsOperators_compileEntries {fields : Fields Value} (hn : (Fields.names fields).Nodup)
    (hk : ∀ e ∈ fields, isNative e.1 = false) :
    holdsOperators (Fields.ofList (compileEntries fields)) = false := by
  have hp := Fields.ofList_map_perm compileEntry_fst fields
  rw [kept_clauseKey_of_not_isNative hn hk] at hp
  rw [compileEntries_eq_map, holdsOperators_perm hp]
  cases fields with
  | nil => rfl
  | cons e rest =>
    have he : (isNative (compileEntry e).1 && !isGroupKey (compileEntry e).1) = false := by
      unfold compileEntry
      split
      · rw [isGroupKey_logicalSymbol, Bool.not_true, Bool.and_false]
      · rw [hk e List.mem_cons_self, Bool.false_and]
    rw [holdsOperators, List.map_cons, List.all_cons, he, Bool.false_and, Bool.and_false]

/-! ### Agreement -/

/-- A compiled entry is tested without error, as it is read. -/
def Agrees : Role → String × Value → Prop
  | .filter, e => ∀ doc,
      acceptsClause doc (compileEntry e).1 (compileEntry e).2 = .ok (holdsEntry doc e.1 e.2)
  | .operators mode, e => ∀ options value, modeOf options = mode →
      acceptsOperator options value (nativeEntry e).1 (nativeEntry e).2 =
        .ok (meetsNamed mode value e.1 e.2)

theorem acceptsClauses_compileEntries {fields : Fields Value} (hn : (Fields.names fields).Nodup)
    (hk : ∀ e ∈ fields, isNative e.1 = false) (ha : ∀ e ∈ fields, Agrees .filter e) (doc : Row) :
    acceptsClauses doc (Fields.ofList (compileEntries fields)) = .ok (holdsEntries doc fields) := by
  have htests : allUntil (fun e => acceptsClause doc e.1 e.2)
      (Fields.ofList (fields.map compileEntry)) =
        .ok ((Fields.kept clauseKey fields).all fun e => holdsEntry doc e.1 e.2) :=
    allUntil_ofList_map compileEntry_fst fun e he => ha e he doc
  rw [acceptsClauses_eq_allUntil, compileEntries_eq_map, htests,
    kept_clauseKey_of_not_isNative hn hk, holdsEntries_eq_all]

theorem modeOf_compileOperand (v : Value) : modeOf (some (compileOperand v)) = modeOf (some v) := by
  cases v <;> rfl

theorem nativeKey_options : nativeKey "options" = "$options" := by decide

theorem nativeEntry_options (v : Value) :
    nativeEntry ("options", v) = ("$options", compileOperand v) := by
  simp [nativeEntry, nativeKey_options]

theorem modeOf_find?_native {operators : Fields Value} (hn : (Fields.names operators).Nodup)
    (hk : ∀ e ∈ operators, IsDocumentName e.1) (hu : IsUnambiguous operators) :
    modeOf (Fields.find? (Fields.ofList (operators.map nativeEntry)) "$options") =
      modeIn operators := by
  have hp := Fields.ofList_map_perm nativeEntry_fst operators
  rw [kept_nativeKey_of_isDocumentName hn hk hu] at hp
  have hnodup := Fields.nodup_names_ofList (operators.map nativeEntry)
  cases ho : Fields.find? operators "options" with
  | some v =>
    have hmem : ("$options", compileOperand v) ∈ Fields.ofList (operators.map nativeEntry) := by
      rw [hp.mem_iff, ← nativeEntry_options]
      exact List.mem_map_of_mem (Fields.mem_of_find? ho)
    rw [Fields.find?_of_mem hnodup hmem, modeOf_compileOperand, modeIn, ho]
  | none =>
    have hnone : Fields.find? (Fields.ofList (operators.map nativeEntry)) "$options" = none := by
      rw [Option.eq_none_iff_forall_ne_some]
      intro w hw
      obtain ⟨e, he, heq⟩ := List.mem_map.1 (hp.mem_iff.1 (Fields.mem_of_find? hw))
      have hkey : nativeKey e.1 = nativeKey "options" := by
        rw [nativeKey_options]
        exact congrArg Prod.fst heq
      have hname : e.1 = "options" := by
        have hnative := isNative_of_isDocumentName (hk e he)
        rcases nativeKey_injective hnative (by decide) hkey with h | h | h
        · exact h
        · exact absurd h.2 (by decide)
        · exact absurd h.2 (by decide)
      have hfound := Fields.find?_of_mem hn (show ("options", e.2) ∈ operators from hname ▸ he)
      rw [ho] at hfound
      simp at hfound
    rw [hnone, modeIn, ho]

theorem acceptsOperators_nativeEntries {operators : Fields Value}
    (hn : (Fields.names operators).Nodup) (hk : ∀ e ∈ operators, IsDocumentName e.1)
    (hu : IsUnambiguous operators)
    (ha : ∀ e ∈ operators, Agrees (.operators (modeIn operators)) e) (value : Option Value) :
    acceptsOperators (Fields.find? (Fields.ofList (nativeEntries operators)) "$options") value
        (Fields.ofList (nativeEntries operators)) =
      .ok (meetsAll (modeIn operators) value operators) := by
  have hmode := modeOf_find?_native hn hk hu
  rw [acceptsOperators_eq_allUntil, nativeEntries_eq_map, meetsAll_eq_all]
  generalize Fields.find? (Fields.ofList (operators.map nativeEntry)) "$options" = options at hmode ⊢
  have htests : allUntil (fun e => acceptsOperator options value e.1 e.2)
      (Fields.ofList (operators.map nativeEntry)) =
        .ok ((Fields.kept nativeKey operators).all fun e =>
          meetsNamed (modeIn operators) value e.1 e.2) :=
    allUntil_ofList_map nativeEntry_fst fun e he => ha e he options value hmode
  rw [htests, kept_nativeKey_of_isDocumentName hn hk hu]

/-! ### Entries of filters -/

theorem agrees_group {k : String} {g : Logical} (hk : Logical.ofKey? k = some g)
    {members : List (Fields Value)}
    (hm : ∀ m ∈ members, ∀ doc, acceptsClauses doc (Fields.ofList (compileEntries m)) =
      .ok (holdsEntries doc m)) : Agrees .filter (k, .list (members.map .map)) := by
  intro doc
  have hcompiled : compileEntry (k, .list (members.map .map)) =
      (g.symbol, .list (members.map fun m => .map (Fields.ofList (compileEntries m)))) := by
    simp only [compileEntry, hk, compileMembers, compileItems_eq_map, List.map_map]
    rfl
  have hmember : ∀ m ∈ members, accepts doc (.map (Fields.ofList (compileEntries m))) =
      .ok (holdsEntries doc m) := by
    intro m hmem
    rw [accepts]
    exact hm m hmem doc
  have hall : acceptsAll doc (members.map fun m => .map (Fields.ofList (compileEntries m))) =
      .ok (holdAll doc (members.map .map)) := by
    rw [acceptsAll_eq_allUntil, allUntil_map, holdAll_map]
    exact allUntil_of_ok hmember
  have hsome : acceptsAny doc (members.map fun m => .map (Fields.ofList (compileEntries m))) =
      .ok (holdsSome doc (members.map .map)) := by
    rw [acceptsAny_eq_anyUntil, anyUntil_map, holdsSome_map]
    exact anyUntil_of_ok hmember
  rw [hcompiled, acceptsClause_group, holdsEntry, hk]
  cases g with
  | and => exact hall
  | or => exact hsome
  | nor =>
    simp only [hsome]
    rfl

theorem agrees_operated {k : String} (hk : IsFieldName k) {operators : Fields Value}
    (hne : operators ≠ []) (hn : (Fields.names operators).Nodup)
    (hd : ∀ e ∈ operators, IsDocumentName e.1) (hu : IsUnambiguous operators)
    (ha : ∀ e ∈ operators, Agrees (.operators (modeIn operators)) e) :
    Agrees .filter (k, .map operators) := by
  intro doc
  have hcompiled : compileEntry (k, .map operators) =
      (k, .map (Fields.ofList (nativeEntries operators))) := by
    simp [compileEntry, hk.2, compileField]
  have hnative : holdsOperators (Fields.ofList (nativeEntries operators)) = true := by
    rw [nativeEntries_eq_map]
    exact holdsOperators_nativeEntries hne fun e he => isGroupKey_nativeKey (hd e he)
  rw [hcompiled, acceptsClause_operators hk.1 hnative, holdsEntry]
  exact acceptsOperators_nativeEntries hn hd hu ha _

theorem agrees_bare {k : String} (hk : IsFieldName k) {v : Value} (hv : v.isMap = false) :
    Agrees .filter (k, v) := by
  intro doc
  cases v with
  | map fields => simp [Value.isMap] at hv
  | list items =>
    have hcompiled : compileEntry (k, .list items) = (k, .map [("$in", .list items)]) := by
      simp [compileEntry, hk.2, compileField]
    rw [hcompiled]
    refine acceptsClause_single hk.1 (by decide) fun options => ?_
    rw [acceptsOperator_of_ne (by decide), holdsEntry, hk.2]
    rfl
  | _ =>
    simp only [compileEntry, hk.2, compileField]
    refine acceptsClause_single hk.1 (by decide) fun options => ?_
    rw [acceptsOperator_of_ne (by decide), holdsEntry_scalar rfl rfl]
    rfl

/-! ### Entries of operators -/

theorem nativeEntry_of_ne {k s : String} {op : Operator} (hk : Operator.ofName? k = some op)
    (hs : op.symbol? = some s) (hne : s ≠ "$elemMatch") (operand : Value) :
    nativeEntry (k, operand) = (s, compileOperand operand) := by
  simp [nativeEntry, nativeKey_of_symbol? hk hs, hne]

theorem meetsNamed_of_ne {k : String} {op : Operator} (hk : Operator.ofName? k = some op)
    (hne : op ≠ .elemMatch) (mode : Pattern.Mode) (value : Option Value) (operand : Value) :
    meetsNamed mode value k operand = passes mode value op (compileOperand operand) := by
  have hname : k ≠ "elemMatch" := by
    rintro rfl
    have helem : Operator.ofName? "elemMatch" = some .elemMatch := by decide
    rw [helem, Option.some.injEq] at hk
    exact hne hk.symm
  cases operand with
  | map fields => simp [meetsNamed, hname, hk]
  | _ => simp [meetsNamed, hk, compileOperand]

theorem meets_of_takesAny {op : Operator} {s : String} (hop : takesAny op = true)
    (hs : op.symbol? = some s) (mode : Pattern.Mode) (options value : Option Value)
    (operand : Value) : meets options value s operand = .ok (passes mode value op operand) := by
  cases op <;> simp only [takesAny, Bool.false_eq_true] at hop <;>
    simp only [Operator.symbol?, Option.some.injEq] at hs <;> subst hs <;> rfl

theorem agrees_plain {mode : Pattern.Mode} {k : String} {op : Operator}
    (hk : Operator.ofName? k = some op) (hop : takesAny op = true) (operand : Value) :
    Agrees (.operators mode) (k, operand) := by
  intro options value _
  obtain ⟨o, s, ho, hs⟩ := isDocumentName_of_takesAny hk hop
  rw [hk, Option.some.injEq] at ho
  subst ho
  have hne : s ≠ "$elemMatch" := by
    rintro rfl
    cases op <;> simp [takesAny, Operator.symbol?] at hop hs
  have hop' : op ≠ .elemMatch := by
    rintro rfl
    simp [takesAny] at hop
  rw [nativeEntry_of_ne hk hs hne, acceptsOperator_of_ne hne, meetsNamed_of_ne hk hop',
    meets_of_takesAny hop hs]

theorem agrees_regex {mode : Pattern.Mode} {s : String}
    (hp : (Pattern.read? mode s).isSome = true) : Agrees (.operators mode) ("regex", .str s) := by
  intro options value hmode
  have hk : Operator.ofName? "regex" = some .regex := by decide
  obtain ⟨p, hread⟩ := Option.isSome_iff_exists.1 hp
  have hmeets : meets options value "$regex" (.str s) =
      .ok (passes mode value .regex (.str s)) := by
    rw [← hmode] at hread ⊢
    show matchesRegex value (.str s) options = _
    rw [matchesRegex, hread, passes, fitsPattern, hread]
    cases value with
    | none => rfl
    | some v => cases v <;> rfl
  have hne : "$regex" ≠ "$elemMatch" := by decide
  rw [nativeEntry_of_ne hk rfl hne, acceptsOperator_of_ne hne, meetsNamed_of_ne hk (by decide)]
  exact hmeets

theorem nativeEntry_elemMatch (operand : Value) :
    nativeEntry ("elemMatch", operand) = ("$elemMatch", compileElement operand) := by
  have hk : nativeKey "elemMatch" = "$elemMatch" := by decide
  rw [nativeEntry, hk, if_pos rfl]

theorem agrees_noElement {mode : Pattern.Mode} {operand : Value} (hv : operand.isMap = false) :
    Agrees (.operators mode) ("elemMatch", operand) := by
  intro options value _
  have helem : Operator.ofName? "elemMatch" = some .elemMatch := by decide
  rw [nativeEntry_elemMatch]
  cases operand with
  | map fields => simp [Value.isMap] at hv
  | _ => simp [compileElement, acceptsOperator, meetsNamed, helem, passes]

theorem agrees_elements {mode : Pattern.Mode} {operand : Fields Value}
    (he : testsElements operand = true) (hn : (Fields.names operand).Nodup)
    (hd : ∀ e ∈ operand, IsDocumentName e.1) (hu : IsUnambiguous operand)
    (ha : ∀ e ∈ operand, Agrees (.operators (modeIn operand)) e) :
    Agrees (.operators mode) ("elemMatch", .map operand) := by
  intro options value _
  have hne : operand ≠ [] := by
    rintro rfl
    simp [testsElements] at he
  have hoperators : isOperatorMap operand = true := by
    rw [isOperatorMap_eq_testsElements fun e h => isNative_of_isDocumentName (hd e h), he]
  have hnative : holdsOperators (Fields.ofList (nativeEntries operand)) = true := by
    rw [nativeEntries_eq_map]
    exact holdsOperators_nativeEntries hne fun e he => isGroupKey_nativeKey (hd e he)
  rw [nativeEntry_elemMatch, compileElement, if_pos hoperators,
    acceptsOperator_elements hnative options value fun item =>
      acceptsOperators_nativeEntries hn hd hu ha (some item), meetsNamed_elemMatch, he]
  rfl

theorem agrees_members {mode : Pattern.Mode} {operand : Fields Value}
    (he : testsElements operand = false) (hn : (Fields.names operand).Nodup)
    (hk : ∀ e ∈ operand, isNative e.1 = false) (ha : ∀ e ∈ operand, Agrees .filter e) :
    Agrees (.operators mode) ("elemMatch", .map operand) := by
  intro options value _
  have hfilter : ¬isOperatorMap operand = true := by
    rw [isOperatorMap_eq_testsElements hk, he]
    exact Bool.false_ne_true
  have hnative := holdsOperators_compileEntries hn hk
  rw [nativeEntry_elemMatch, compileElement, if_neg hfilter,
    acceptsOperator_members hnative options value
      (acceptsClauses_compileEntries hn hk ha), meetsNamed_elemMatch, he]
  rfl

/-! ### Filters -/

theorem sorted_of_mem_members {members : List (Fields Value)}
    (hw : Value.WellFormed (.list (members.map .map))) {m : Fields Value} (hm : m ∈ members) :
    Fields.Sorted m ∧ Value.WellFormedFields m := by
  rw [Value.WellFormed, Value.wellFormedList_iff] at hw
  have h := hw (.map m) (List.mem_map_of_mem hm)
  rwa [Value.WellFormed] at h

/-- By induction on the shape: each entry of a filter or of operators is tested as it is read. -/
theorem IsReadable.agrees {role : Role} {fields : Fields Value} (h : IsReadable role fields)
    (hw : Value.WellFormedFields fields) : ∀ e ∈ fields, Agrees role e := by
  induction h with
  | nil => simp
  | @group k g rest members hn hk hm _ ihm ih =>
    refine List.forall_mem_cons.2 ⟨agrees_group hk fun m hmem doc => ?_, ih hw.2⟩
    obtain ⟨hs, hwm⟩ := sorted_of_mem_members hw.1 hmem
    exact acceptsClauses_compileEntries hs.nodup_names (hm m hmem).hasKey (ihm m hmem hwm) doc
  | operated hk hne hu ho _ iho ih =>
    obtain ⟨⟨hs, hwo⟩, hr⟩ := hw
    exact List.forall_mem_cons.2
      ⟨agrees_operated hk hne hs.nodup_names ho.hasKey hu (iho hwo), ih hr⟩
  | bare hk hv _ ih => exact List.forall_mem_cons.2 ⟨agrees_bare hk hv, ih hw.2⟩
  | plain hk hop _ ih => exact List.forall_mem_cons.2 ⟨agrees_plain hk hop _, ih hw.2⟩
  | regex hp _ ih => exact List.forall_mem_cons.2 ⟨agrees_regex hp, ih hw.2⟩
  | elements he hu ho _ iho ih =>
    obtain ⟨⟨hs, hwo⟩, hr⟩ := hw
    exact List.forall_mem_cons.2
      ⟨agrees_elements he hs.nodup_names ho.hasKey hu (iho hwo), ih hr⟩
  | members he ho _ iho ih =>
    obtain ⟨⟨hs, hwo⟩, hr⟩ := hw
    exact List.forall_mem_cons.2 ⟨agrees_members he hs.nodup_names ho.hasKey (iho hwo), ih hr⟩
  | noElement hv _ ih => exact List.forall_mem_cons.2 ⟨agrees_noElement hv, ih hw.2⟩

theorem accepts_compile_map {fields : Fields Value} (hw : Value.WellFormed (.map fields))
    (h : IsReadable .filter fields) (doc : Row) :
    accepts doc (compile (.map fields)) = .ok (holdsEntries doc fields) := by
  rw [compile, accepts]
  exact acceptsClauses_compileEntries hw.1.nodup_names h.hasKey (h.agrees hw.2) doc

end PagedFilter.Document
