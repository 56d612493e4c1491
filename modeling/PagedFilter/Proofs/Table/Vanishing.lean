import PagedFilter.Proofs.Filter.Canonical
import PagedFilter.Proofs.Table.Meaning
import PagedFilter.Proofs.Table.Runs

/-!
Filters that add no clause to a query. Every row passes such a filter, but an `or` group stands open for
all rows only if one of its members consists of groups alone that constrain nothing. A member that adds
nothing for another reason, a field without an operator that tables know, vanishes from its group, and
the rows that it accepts alone are not accepted for its sake.
-/

namespace PagedFilter.Table

/-- What holds of a filter if it holds of the rest of its entries and of the members of the first, taken
as a group, holds of every filter. -/
theorem fieldsInductionOn {P : Fields Value → Prop} (nil : P [])
    (cons : ∀ k v rest, (∀ m ∈ groupMembers v, P m) → P rest → P ((k, v) :: rest))
    (fields : Fields Value) : P fields := by
  have hmembers : ∀ v : Value, ∀ m ∈ groupMembers v, P m := by
    intro v
    induction v using Value.inductionOn with
    | leaf v hl hm =>
      cases v with
      | list items => simp [Value.isList] at hl
      | map fields => simp [Value.isMap] at hm
      | _ => simp [groupMembers]
    | list items ih =>
      intro m hm
      obtain ⟨v, hv, hvm⟩ := List.mem_filterMap.1 hm
      refine ih v hv m ?_
      cases v with
      | map fields =>
        rw [Value.map?, Option.some.injEq] at hvm
        exact List.mem_singleton.2 hvm.symm
      | _ => simp [Value.map?] at hvm
    | map fields ih =>
      intro m hm
      rw [List.mem_singleton.1 hm]
      clear hm
      induction fields with
      | nil => exact nil
      | cons e rest ihrest =>
        obtain ⟨hfirst, hrest⟩ := List.forall_mem_cons.1 ih
        exact cons e.1 e.2 rest hfirst (ihrest hrest)
  exact hmembers (.map fields) fields (List.mem_singleton.2 rfl)

/-! ### Filters that add nothing -/

/-- Filters whose fields and groups all add nothing. -/
inductive AddsNothing : Fields Value → Prop
  | nil : AddsNothing []
  | field {k v rest} (hk : Logical.ofKey? k = none) (hv : ¬Constrains v)
      (hr : AddsNothing rest) : AddsNothing ((k, v) :: rest)
  | nor {k v rest} (hk : Logical.ofKey? k = some .nor) (hr : AddsNothing rest) :
      AddsNothing ((k, v) :: rest)
  | and {k v rest} (hk : Logical.ofKey? k = some .and) (hm : ∀ m ∈ groupMembers v, AddsNothing m)
      (hr : AddsNothing rest) : AddsNothing ((k, v) :: rest)
  /-- An `or` group with a member that stands open is dropped. -/
  | dropped {k v rest} (hk : Logical.ofKey? k = some .or)
      (hm : ∃ m ∈ groupMembers v, isUnconstrained m = true) (hr : AddsNothing rest) :
      AddsNothing ((k, v) :: rest)
  /-- An `or` group with members is dropped if all of them vanish. -/
  | vanished {k v rest} (hk : Logical.ofKey? k = some .or) (hn : groupMembers v ≠ [])
      (hm : ∀ m ∈ groupMembers v, AddsNothing m) (hr : AddsNothing rest) :
      AddsNothing ((k, v) :: rest)

theorem isUnconstrained_cons (k : String) (v : Value) (rest : Fields Value) :
    isUnconstrained ((k, v) :: rest) =
      ((match Logical.ofKey? k with
        | some .or => (groupMembers v).any isUnconstrained
        | some .and => (groupMembers v).all isUnconstrained
        | some .nor => true
        | none => false) && isUnconstrained rest) := by
  have h := isUnconstrained.eq_2 k v rest
  rw [anyUnconstrained_eq_any, allUnconstrained_eq_all] at h
  exact h

theorem addsNothing_of_isUnconstrained {fields : Fields Value} (h : isUnconstrained fields = true) :
    AddsNothing fields := by
  induction fields using fieldsInductionOn with
  | nil => exact .nil
  | cons k v rest ihm ih =>
    rw [isUnconstrained_cons, Bool.and_eq_true] at h
    obtain ⟨hgroup, hrest⟩ := h
    split at hgroup
    · next hk => exact .dropped hk (List.any_eq_true.1 hgroup) (ih hrest)
    · next hk => exact .and hk (fun m hm => ihm m hm (List.all_eq_true.1 hgroup m hm)) (ih hrest)
    · next hk => exact .nor hk (ih hrest)
    · exact absurd hgroup Bool.false_ne_true

theorem addsNothing_cons_iff (k : String) (v : Value) (rest : Fields Value) :
    AddsNothing ((k, v) :: rest) ↔
      (match Logical.ofKey? k with
        | some .or => (∃ m ∈ groupMembers v, isUnconstrained m = true) ∨
            groupMembers v ≠ [] ∧ ∀ m ∈ groupMembers v, AddsNothing m
        | some .and => ∀ m ∈ groupMembers v, AddsNothing m
        | some .nor => True
        | none => ¬Constrains v) ∧ AddsNothing rest := by
  constructor
  · intro h
    cases h with
    | field hk hv hr => simp only [hk]; exact ⟨hv, hr⟩
    | nor hk hr => simp only [hk]; exact ⟨trivial, hr⟩
    | and hk hm hr => simp only [hk]; exact ⟨hm, hr⟩
    | dropped hk hm hr => simp only [hk]; exact ⟨.inl hm, hr⟩
    | vanished hk hn hm hr => simp only [hk]; exact ⟨.inr ⟨hn, hm⟩, hr⟩
  · rintro ⟨hentry, hr⟩
    split at hentry
    · next hk =>
      rcases hentry with hm | ⟨hn, hm⟩
      · exact .dropped hk hm hr
      · exact .vanished hk hn hm hr
    · next hk => exact .and hk hentry hr
    · next hk => exact .nor hk hr
    · next hk => exact .field hk hentry hr

/-! ### Clauses that vanish -/

theorem fieldClauses_eq_nil_iff (column : String) (v : Value) :
    fieldClauses column v = [] ↔ ¬Constrains v := by
  constructor
  · intro h hv
    exact fieldClauses_ne_nil hv column h
  · intro hv
    cases v with
    | map operators =>
      rw [List.eq_nil_iff_forall_not_mem]
      intro c hc
      obtain ⟨e, he, op, hop, hclause⟩ := mem_operatorClauses hc
      have hr := isSome_operatorClause? op column e.2
      rw [hclause] at hr
      exact hv ⟨e, he, op, hop, hr.symm⟩
    | _ => exact absurd trivial hv

theorem remaining_eq_nil_iff (lists : List (List Clause)) :
    remaining lists = [] ↔ ∀ cs ∈ lists, Clause.prune cs = [] := by
  rw [List.eq_nil_iff_forall_not_mem]
  simp only [mem_remaining_iff, not_and, ne_eq, Decidable.not_not]

theorem prune_joinMembers_eq_nil_iff (joined : Connective) (lists : List (List Clause)) :
    Clause.prune (joinMembers joined lists) = [] ↔ ∀ cs ∈ lists, Clause.prune cs = [] := by
  have hmap := map_truth_prune_joinMembers [] joined lists
  rw [← remaining_eq_nil_iff, ← List.map_eq_nil_iff, hmap, List.map_eq_nil_iff]

theorem prune_group_eq_nil_iff (joined : Connective) (clauses : List Clause) :
    Clause.prune [.group joined clauses] = [] ↔ Clause.prune clauses = [] := by
  by_cases h : Clause.prune clauses = []
  · simp [Clause.prune_group_of_nil h, h]
  · simp [Clause.prune_group_of_ne_nil h, h]

theorem prune_closeGroup_and_eq_nil_iff (unconstrained : Bool) (lists : List (List Clause)) :
    Clause.prune (closeGroup .and unconstrained (joinMembers .and lists)) = [] ↔
      ∀ cs ∈ lists, Clause.prune cs = [] := by
  have hclose : closeGroup .and unconstrained (joinMembers .and lists) =
      if joinMembers .and lists = [] then [] else [.group .and (joinMembers .and lists)] := by
    simp [closeGroup]
  rw [← prune_joinMembers_eq_nil_iff .and, hclose]
  split
  · next h =>
    rw [h]
  · exact prune_group_eq_nil_iff .and _

/-- An `or` group leaves a clause if it has no members, and if none stands open and one is left. -/
theorem prune_closeGroup_or_eq_nil_iff (unconstrained : Bool) (lists : List (List Clause)) :
    Clause.prune (closeGroup .or unconstrained (joinMembers .or lists)) = [] ↔
      lists ≠ [] ∧ (unconstrained = true ∨ ∀ cs ∈ lists, Clause.prune cs = []) := by
  cases lists with
  | nil => simp [joinMembers, closeGroup, Clause.prune, Clause.prune?]
  | cons first rest =>
    rw [← prune_joinMembers_eq_nil_iff .or]
    cases unconstrained with
    | true => simp [joinMembers, closeGroup, Clause.prune]
    | false =>
      have hclose : closeGroup .or false (joinMembers .or (first :: rest)) =
          [.group .and (joinMembers .or (first :: rest))] := by
        simp [closeGroup, joinMembers]
      rw [hclose, prune_group_eq_nil_iff]
      simp

/-- What is left of the clauses of a filter does not depend on the names of columns. -/
theorem prune_filterClauses_eq_nil_iff (ctx : Context) (table : Option String)
    (fields : Fields Value) :
    Clause.prune (filterClauses ctx table fields) = [] ↔ AddsNothing fields := by
  induction fields using fieldsInductionOn with
  | nil => exact iff_of_true rfl .nil
  | cons k v rest ihm ih =>
    have hmembers : (∀ cs ∈ (groupMembers v).map (filterClauses ctx table), Clause.prune cs = []) ↔
        ∀ m ∈ groupMembers v, AddsNothing m := by
      rw [List.forall_mem_map]
      exact forall₂_congr ihm
    rw [filterClauses_cons, Clause.prune_append, List.append_eq_nil_iff, ih, addsNothing_cons_iff]
    refine and_congr_left fun _ => ?_
    rw [entryClauses]
    cases hk : Logical.ofKey? k with
    | none =>
      simp only [prune_fieldClauses, fieldClauses_eq_nil_iff]
    | some g =>
      cases g with
      | nor => exact iff_of_true rfl trivial
      | and =>
        simp only [groupClauses_eq_closeGroup, prune_closeGroup_and_eq_nil_iff, hmembers]
      | or =>
        simp only [groupClauses_eq_closeGroup, prune_closeGroup_or_eq_nil_iff, hmembers,
          List.any_eq_true, ne_eq, List.map_eq_nil_iff]
        constructor
        · rintro ⟨hn, hopen | hall⟩
          · exact .inl hopen
          · exact .inr ⟨hn, hall⟩
        · rintro (⟨m, hm, hopen⟩ | ⟨hn, hall⟩)
          · exact ⟨List.ne_nil_of_mem hm, .inl ⟨m, hm, hopen⟩⟩
          · exact ⟨hn, .inr hall⟩

/-! ### Groups of alternatives -/

/-- The clauses of a fresh query on a table that a filter narrows. -/
def narrowed (ctx : Context) (name : String) (fields : Fields Value) : List Clause :=
  ((Query.ofTable name).filter (compile ctx (some name) (.map fields))).clauses

theorem narrowed_eq_prune (ctx : Context) (name : String) (fields : Fields Value) :
    narrowed ctx name fields = Clause.prune (filterClauses ctx (some name) fields) := by
  rw [narrowed, Query.filter, Query.ofTable, List.nil_append, compile]

theorem narrowed_eq_nil_iff (ctx : Context) (name : String) (fields : Fields Value) :
    narrowed ctx name fields = [] ↔ AddsNothing fields := by
  rw [narrowed_eq_prune, prune_filterClauses_eq_nil_iff]

theorem selects_of_addsNothing {fields : Fields Value} (h : AddsNothing fields) (ctx : Context)
    (name : String) (row : Row) : selects (narrowed ctx name fields) row = true := by
  rw [(narrowed_eq_nil_iff ctx name fields).2 h]
  rfl

theorem narrowed_group (ctx : Context) (name : String) {k : String}
    (hk : Logical.ofKey? k = some .or) (v : Value) :
    narrowed ctx name [(k, v)] = Clause.prune (closeGroup .or ((groupMembers v).any isUnconstrained)
      (joinMembers .or ((groupMembers v).map (filterClauses ctx (some name))))) := by
  rw [narrowed_eq_prune, filterClauses_cons, entryClauses, hk, filterClauses, List.append_nil]
  exact congrArg Clause.prune (groupClauses_eq_closeGroup ctx (some name) .or v)

/-- An `or` group selects a row if it is dropped, or if some member that adds a clause selects it. -/
theorem selects_group_iff (ctx : Context) (name : String) {k : String}
    (hk : Logical.ofKey? k = some .or) (v : Value) (row : Row) :
    selects (narrowed ctx name [(k, v)]) row = true ↔
      (AddsNothing [(k, v)] ∨
        ∃ m ∈ groupMembers v, ¬AddsNothing m ∧ selects (narrowed ctx name m) row = true) := by
  by_cases hnone : AddsNothing [(k, v)]
  · exact iff_of_true (selects_of_addsNothing hnone ctx name row) (.inl hnone)
  · have hleft := mt (narrowed_eq_nil_iff ctx name [(k, v)]).1 hnone
    rw [narrowed_group ctx name hk, prune_closeGroup_or_eq_nil_iff, not_and, not_or] at hleft
    simp only [hnone, false_or]
    rw [narrowed_group ctx name hk]
    by_cases hm : groupMembers v = []
    · rw [hm]
      simp [joinMembers, closeGroup, Clause.prune, Clause.prune?, selects, Clause.truthOfList,
        Clause.truthFrom, Clause.truth, Truth.or]
    · have hlists : (groupMembers v).map (filterClauses ctx (some name)) ≠ [] := by simpa using hm
      obtain ⟨hopen, hsome⟩ := hleft hlists
      have hjoin : joinMembers .or ((groupMembers v).map (filterClauses ctx (some name))) ≠ [] := by
        intro h
        exact hsome ((prune_joinMembers_eq_nil_iff .or _).1 (by rw [h]; rfl))
      rw [selects, Bool.eq_false_iff.2 hopen, truthOfList_closeGroup row hjoin,
        truthOfList_joinMembers_or row (mt (remaining_eq_nil_iff _).1 hsome), Truth.any_beq_true,
        List.any_map, List.any_eq_true]
      constructor
      · rintro ⟨cs, hcs, hselects⟩
        obtain ⟨hmem, hne⟩ := mem_remaining_iff.1 hcs
        obtain ⟨m, hmember, rfl⟩ := List.mem_map.1 hmem
        rw [← narrowed_eq_prune] at hne
        rw [Function.comp_apply, ← narrowed_eq_prune] at hselects
        exact ⟨m, hmember, mt (narrowed_eq_nil_iff ctx name m).2 hne, hselects⟩
      · rintro ⟨m, hmember, hadds, hselects⟩
        have hne := mt (narrowed_eq_nil_iff ctx name m).1 hadds
        rw [narrowed_eq_prune] at hne hselects
        exact ⟨_, mem_remaining_iff.2 ⟨List.mem_map_of_mem hmember, hne⟩, hselects⟩

/-- Where all members that add nothing stand open, a group is the alternative of its members. -/
theorem selects_group_iff_exists (ctx : Context) (name : String) {k : String}
    (hk : Logical.ofKey? k = some .or) {v : Value} (row : Row)
    (h : ∀ m ∈ groupMembers v, AddsNothing m → isUnconstrained m = true) :
    selects (narrowed ctx name [(k, v)]) row = true ↔
      ∃ m ∈ groupMembers v, selects (narrowed ctx name m) row = true := by
  rw [selects_group_iff ctx name hk]
  constructor
  · rintro (hnone | ⟨m, hm, _, hselects⟩)
    · have hmember : ∃ m ∈ groupMembers v, AddsNothing m := by
        cases hnone with
        | field hf _ _ => simp [hf] at hk
        | nor hn _ => simp [hn] at hk
        | and ha _ _ => simp [ha] at hk
        | dropped _ hm _ =>
          obtain ⟨m, hm, hopen⟩ := hm
          exact ⟨m, hm, addsNothing_of_isUnconstrained hopen⟩
        | vanished _ hn hm _ =>
          obtain ⟨m, hmem⟩ := List.exists_mem_of_ne_nil _ hn
          exact ⟨m, hmem, hm m hmem⟩
      obtain ⟨m, hm, hadds⟩ := hmember
      exact ⟨m, hm, selects_of_addsNothing hadds ctx name row⟩
    · exact ⟨m, hm, hselects⟩
  · rintro ⟨m, hm, hselects⟩
    by_cases hadds : AddsNothing m
    · exact .inl (.dropped hk ⟨m, hm, h m hm hadds⟩ .nil)
    · exact .inr ⟨m, hm, hadds, hselects⟩

/-- A filter adds no clause exactly if all its fields and groups add nothing, and so does one that
consists of groups alone that constrain nothing; the two are the same where every field constrains. An
`or` group selects what the members select that add a clause, and every row if it adds nothing itself.
So it is the alternative of its members if each that adds nothing consists of such groups alone. -/
theorem filters_without_clauses (ctx : Context) (name : String) :
    (∀ fields, narrowed ctx name fields = [] ↔ AddsNothing fields) ∧
      (∀ fields, isUnconstrained fields = true → AddsNothing fields) ∧
      (∀ fields, ConstrainsEverywhere fields →
        (narrowed ctx name fields = [] ↔ isUnconstrained fields = true)) ∧
      ∀ (k : String) (v : Value) (row : Row), Logical.ofKey? k = some .or →
        (selects (narrowed ctx name [(k, v)]) row = true ↔ AddsNothing [(k, v)] ∨
          ∃ m ∈ groupMembers v, ¬AddsNothing m ∧ selects (narrowed ctx name m) row = true) ∧
        ((∀ m ∈ groupMembers v, AddsNothing m → isUnconstrained m = true) →
          (selects (narrowed ctx name [(k, v)]) row = true ↔
            ∃ m ∈ groupMembers v, selects (narrowed ctx name m) row = true)) := by
  refine ⟨narrowed_eq_nil_iff ctx name, fun _ => addsNothing_of_isUnconstrained, ?_, ?_⟩
  · intro fields hconstrains
    constructor
    · intro hnil
      cases hopen : isUnconstrained fields with
      | true => rfl
      | false =>
        rw [narrowed_eq_prune] at hnil
        exact absurd hnil (prune_filterClauses_ne_nil hconstrains ctx (some name) hopen)
    · intro hopen
      exact (narrowed_eq_nil_iff ctx name fields).2 (addsNothing_of_isUnconstrained hopen)
  · intro k v row hk
    exact ⟨selects_group_iff ctx name hk v row, selects_group_iff_exists ctx name hk row⟩

theorem group_selects_member_alone :
    let scored : Fields Value := [("score", .map [("gt", .int 7)])]
    let admin : Fields Value := [("role", .str "admin")]
    let row : Row := [("role", .str "admin"), ("score", .int 5)]
    selects (narrowed .default "t" admin) row = true ∧
      selects (narrowed .default "t" [("or", .list [.map scored, .map admin])]) row = true := by
  intro scored admin row
  obtain ⟨hnil, -, -, hgroups⟩ := filters_without_clauses .default "t"
  have hadmin : selects (narrowed .default "t" admin) row = true := by decide +kernel
  have hadds : ∀ m ∈ groupMembers (.list [.map scored, .map admin]),
      AddsNothing m → isUnconstrained m = true := by
    intro m hm hnone
    have hne : ∀ m ∈ [scored, admin], (narrowed .default "t" m).isEmpty = false := by
      decide +kernel
    exact absurd (List.isEmpty_iff.2 ((hnil m).2 hnone)) (Bool.eq_false_iff.1 (hne m hm))
  refine ⟨hadmin, ((hgroups "or" _ row rfl).2 hadds).2 ⟨admin, ?_, hadmin⟩⟩
  exact List.mem_cons_of_mem _ (List.mem_singleton.2 rfl)

/-- A field whose operators tables do not know selects every row alone, but in an `or` group it is no
alternative. -/
theorem vanished_member_selects_alone :
    let sized : Fields Value := [("tags", .map [("size", .int 2)])]
    let scored : Fields Value := [("score", .map [("gt", .int 7)])]
    let group : Fields Value := [("or", .list [.map sized, .map scored])]
    let row : Row := [("id", .int 1), ("score", .int 5)]
    Filter.normalize (.map group) = .map group ∧ narrowed .default "t" sized = [] ∧
      isUnconstrained sized = false ∧ selects (narrowed .default "t" sized) row = true ∧
      selects (narrowed .default "t" group) row = false := by
  intro sized scored group row
  exact ⟨by decide +kernel, rfl, rfl, rfl, by decide +kernel⟩

end PagedFilter.Table
