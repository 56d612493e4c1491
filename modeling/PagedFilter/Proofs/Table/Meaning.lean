import PagedFilter.Proofs.Filter.Shape
import PagedFilter.Proofs.Table.Atoms
import PagedFilter.Table.Query

/-!
The clauses that a filter adds to a query are true of a row, false or unknown as the filter is in
three-valued logic: groups that are dropped were true, and the connective of a first clause is of no
effect.
-/

namespace PagedFilter.Table

/-! ### Groups -/

/-- The members of a group: the maps in a list, or a single map. -/
def groupMembers : Value → List (Fields Value)
  | .list items => items.filterMap Value.map?
  | .map fields => [fields]
  | _ => []

theorem groupMembers_map (members : List (Fields Value)) :
    groupMembers (.list (members.map .map)) = members := by
  simp [groupMembers, List.filterMap_map, Function.comp_def, Value.map?]

theorem memberLists_eq_map (ctx : Context) (table : Option String) (items : List Value) :
    memberLists ctx table items =
      (items.filterMap Value.map?).map (filterClauses ctx table) := by
  induction items with
  | nil => rfl
  | cons v rest ih => cases v <;> simp [memberLists, memberClauses, List.filterMap_cons, Value.map?, ih]

theorem anyMember_eq_any (items : List Value) :
    anyMember items = (items.filterMap Value.map?).any isUnconstrained := by
  induction items with
  | nil => rfl
  | cons v rest ih => cases v <;> simp [anyMember, memberIs, List.filterMap_cons, Value.map?, ih]

theorem allMembers_eq_all (items : List Value) :
    allMembers items = (items.filterMap Value.map?).all isUnconstrained := by
  induction items with
  | nil => rfl
  | cons v rest ih => cases v <;> simp [allMembers, memberIs, List.filterMap_cons, Value.map?, ih]

theorem anyUnconstrained_eq_any (v : Value) :
    anyUnconstrained v = (groupMembers v).any isUnconstrained := by
  cases v <;> simp [anyUnconstrained, groupMembers, anyMember_eq_any]

theorem allUnconstrained_eq_all (v : Value) :
    allUnconstrained v = (groupMembers v).all isUnconstrained := by
  cases v <;> simp [allUnconstrained, groupMembers, allMembers_eq_all]

theorem groupClauses_eq_closeGroup (ctx : Context) (table : Option String) (joined : Connective)
    (v : Value) : groupClauses ctx table joined v =
      closeGroup joined ((groupMembers v).any isUnconstrained)
        (joinMembers joined ((groupMembers v).map (filterClauses ctx table))) := by
  cases v <;> simp [groupClauses, groupMembers, memberLists_eq_map, anyMember_eq_any, joinMembers]

theorem connective_closeGroup {joined : Connective} {unconstrained : Bool} {groups : List Clause}
    {c : Clause} (h : c ∈ closeGroup joined unconstrained groups) : c.connective = .and := by
  unfold closeGroup at h
  split at h
  · split at h
    · rw [List.mem_singleton.1 h]
      rfl
    · simp at h
  · split at h
    · simp at h
    · rw [List.mem_singleton.1 h]
      rfl

theorem connective_groupClauses {ctx : Context} {table : Option String} {joined : Connective}
    {v : Value} {c : Clause} (h : c ∈ groupClauses ctx table joined v) : c.connective = .and := by
  cases v <;> exact connective_closeGroup (by simpa only [groupClauses] using h)

def entryClauses (ctx : Context) (table : Option String) (k : String) (v : Value) : List Clause :=
  match Logical.ofKey? k with
  | some .or => groupClauses ctx table .or v
  | some .and => groupClauses ctx table .and v
  | some .nor => []
  | none => fieldClauses (ctx.qualifiedName k table) v

theorem filterClauses_cons (ctx : Context) (table : Option String) (k : String) (v : Value)
    (rest : Fields Value) : filterClauses ctx table ((k, v) :: rest) =
      entryClauses ctx table k v ++ filterClauses ctx table rest := by
  rfl

theorem entryClauses_group {k : String} {g : Logical} (hk : Logical.ofKey? k = some g)
    (hg : g ≠ .nor) (ctx : Context) (table : Option String) (members : List (Fields Value)) :
    entryClauses ctx table k (.list (members.map .map)) =
      if g = .or then closeGroup .or (members.any isUnconstrained)
        (joinMembers .or (members.map (filterClauses ctx table)))
      else closeGroup .and false (joinMembers .and (members.map (filterClauses ctx table))) := by
  cases g with
  | and => simp [entryClauses, hk, groupClauses_eq_closeGroup, groupMembers_map, closeGroup]
  | or => simp [entryClauses, hk, groupClauses_eq_closeGroup, groupMembers_map]
  | nor => exact absurd rfl hg

theorem connective_entryClauses {ctx : Context} {table : Option String} {k : String} {v : Value} :
    ∀ c ∈ entryClauses ctx table k v, c.connective = .and := by
  intro c h
  unfold entryClauses at h
  split at h
  · exact connective_groupClauses h
  · exact connective_groupClauses h
  · simp at h
  · exact (mem_fieldClauses h).1

theorem connective_filterClauses (ctx : Context) (table : Option String) (fields : Fields Value) :
    ∀ c ∈ filterClauses ctx table fields, c.connective = .and := by
  induction fields with
  | nil => simp [filterClauses]
  | cons e rest ih =>
    intro c h
    rw [filterClauses_cons, List.mem_append] at h
    rcases h with h | h
    · exact connective_entryClauses c h
    · exact ih c h

theorem truthOfList_filterClauses_cons (row : Row) (ctx : Context) (table : Option String)
    (k : String) (v : Value) (rest : Fields Value) :
    Clause.truthOfList row (Clause.prune (filterClauses ctx table ((k, v) :: rest))) =
      (Clause.truthOfList row (Clause.prune (entryClauses ctx table k v))).and
        (Clause.truthOfList row (Clause.prune (filterClauses ctx table rest))) := by
  rw [filterClauses_cons, Clause.truthOfList_prune_append row connective_entryClauses
    (connective_filterClauses ctx table rest)]

theorem joinMembers_and (lists : List (List Clause)) :
    joinMembers .and lists = lists.map (.group .and) := by
  cases lists <;> rfl

theorem truthOfList_joinMembers_and (row : Row) (lists : List (List Clause)) :
    Clause.truthOfList row (Clause.prune (joinMembers .and lists)) =
      Truth.all (lists.map fun cs => Clause.truthOfList row (Clause.prune cs)) := by
  rw [joinMembers_and]
  induction lists with
  | nil => rfl
  | cons cs rest ih =>
    have hc : ∀ c ∈ [Clause.group .and cs], c.connective = .and := by simp [Clause.connective]
    have hr : ∀ c ∈ rest.map (Clause.group .and), c.connective = .and := by
      simp [Clause.connective]
    have h := Clause.truthOfList_prune_append row hc hr
    rw [List.singleton_append] at h
    rw [List.map_cons, h, Clause.truthOfList_prune_group, ih]
    rfl

/-- The members that are left when groups without clauses are dropped. -/
def remaining (lists : List (List Clause)) : List (List Clause) :=
  lists.filter fun cs => !(Clause.prune cs).isEmpty

theorem mem_remaining_iff {lists : List (List Clause)} {cs : List Clause} :
    cs ∈ remaining lists ↔ cs ∈ lists ∧ Clause.prune cs ≠ [] := by
  simp [remaining]

theorem remaining_eq_self {lists : List (List Clause)} (h : ∀ cs ∈ lists, Clause.prune cs ≠ []) :
    remaining lists = lists :=
  List.filter_eq_self.2 fun cs hcs => by simp [h cs hcs]

theorem map_truth_prune_groups (row : Row) (joined : Connective) (lists : List (List Clause)) :
    (Clause.prune (lists.map (.group joined))).map (Clause.truth row) =
      (remaining lists).map fun cs => Clause.truthOfList row (Clause.prune cs) := by
  induction lists with
  | nil => rfl
  | cons cs rest ih =>
    rw [List.map_cons, Clause.prune_cons, List.map_append, ih]
    by_cases h : Clause.prune cs = []
    · simp [Clause.prune_group_of_nil h, remaining, h]
    · simp [Clause.prune_group_of_ne_nil h, remaining, h, Clause.truth]

theorem map_truth_prune_joinMembers (row : Row) (joined : Connective)
    (lists : List (List Clause)) :
    (Clause.prune (joinMembers joined lists)).map (Clause.truth row) =
      (remaining lists).map fun cs => Clause.truthOfList row (Clause.prune cs) := by
  cases lists with
  | nil => rfl
  | cons first rest =>
    have hfirst := map_truth_prune_groups row .and [first]
    rw [List.map_singleton] at hfirst
    rw [joinMembers, Clause.prune_cons, List.map_append, hfirst, map_truth_prune_groups,
      ← List.map_append, remaining, remaining, ← List.filter_append, List.singleton_append]
    rfl

/-- Behind the first member that is left all others join by `or`. -/
theorem connective_of_prune_joinMembers {lists : List (List Clause)} {c : Clause}
    {cs : List Clause} (h : Clause.prune (joinMembers .or lists) = c :: cs) :
    ∀ d ∈ cs, d.connective = .or := by
  cases lists with
  | nil => simp [joinMembers, Clause.prune] at h
  | cons first rest =>
    have hrest : ∀ d ∈ Clause.prune (rest.map (.group .or)), d.connective = .or :=
      Clause.connective_of_mem_prune (by simp [Clause.connective])
    rw [joinMembers, Clause.prune_cons] at h
    by_cases hfirst : Clause.prune first = []
    · rw [Clause.prune_group_of_nil hfirst, List.nil_append] at h
      rw [h] at hrest
      exact fun d hd => hrest d (List.mem_cons_of_mem _ hd)
    · rw [Clause.prune_group_of_ne_nil hfirst, List.singleton_append, List.cons.injEq] at h
      rw [← h.2]
      exact hrest

/-- Members joined by `or` are alternatives, as far as they are left. -/
theorem truthOfList_joinMembers_or (row : Row) {lists : List (List Clause)}
    (hn : remaining lists ≠ []) :
    Clause.truthOfList row (Clause.prune (joinMembers .or lists)) =
      Truth.any ((remaining lists).map fun cs => Clause.truthOfList row (Clause.prune cs)) := by
  have hmap := map_truth_prune_joinMembers row .or lists
  cases h : Clause.prune (joinMembers .or lists) with
  | nil =>
    rw [h, List.map_nil, eq_comm, List.map_eq_nil_iff] at hmap
    exact absurd hmap hn
  | cons c cs =>
    rw [Clause.truthOfList_of_or row c cs (connective_of_prune_joinMembers h), ← h, hmap]

theorem prune_joinMembers_ne_nil {lists : List (List Clause)} {cs : List Clause} (hm : cs ∈ lists)
    (h : Clause.prune cs ≠ []) (joined : Connective) :
    Clause.prune (joinMembers joined lists) ≠ [] := by
  have hg (k : Connective) : Clause.prune [.group k cs] ≠ [] := by
    rw [Clause.prune_group_of_ne_nil h]
    simp
  cases lists with
  | nil => simp at hm
  | cons first rest =>
    rcases List.mem_cons.1 hm with rfl | hm
    · exact Clause.prune_ne_nil_of_mem List.mem_cons_self (hg .and)
    · exact Clause.prune_ne_nil_of_mem
        (List.mem_cons_of_mem _ (List.mem_map_of_mem hm)) (hg joined)

theorem prune_closeGroup_ne_nil {joined : Connective} {groups : List Clause}
    (h : Clause.prune groups ≠ []) : Clause.prune (closeGroup joined false groups) ≠ [] := by
  have hn : groups ≠ [] := by
    rintro rfl
    exact h rfl
  have hc : closeGroup joined false groups = [.group .and groups] := by simp [closeGroup, hn]
  rw [hc, Clause.prune_group_of_ne_nil h]
  simp

theorem truthOfList_closeGroup (row : Row) {joined : Connective} {groups : List Clause}
    (hn : groups ≠ []) : Clause.truthOfList row (Clause.prune (closeGroup joined false groups)) =
      Clause.truthOfList row (Clause.prune groups) := by
  have hc : closeGroup joined false groups = [.group .and groups] := by simp [closeGroup, hn]
  rw [hc, Clause.truthOfList_prune_group]

/-! ### Filters -/

/-- The shape of filters that tables give a meaning: their fields all constrain. -/
def IsTableFilter : Fields Value → Prop :=
  Filter.Everywhere fun k v => Logical.ofKey? k = none → Constrains v ∧ PatternsFit v

/-- Filters whose fields all add a clause, at any depth. -/
def ConstrainsEverywhere : Fields Value → Prop :=
  Filter.Everywhere fun k v => Logical.ofKey? k = none → Constrains v

theorem IsTableFilter.constrains {fields : Fields Value} (h : IsTableFilter fields) :
    ConstrainsEverywhere fields := Filter.Everywhere.mono h fun _ _ hv hk => (hv hk).1

theorem isUnconstrained_cons_nor {k : String} (hk : Logical.ofKey? k = some .nor) (v : Value)
    (rest : Fields Value) : isUnconstrained ((k, v) :: rest) = isUnconstrained rest := by
  simp [isUnconstrained, hk]

theorem isUnconstrained_cons_group {k : String} {g : Logical} (hk : Logical.ofKey? k = some g)
    (hg : g ≠ .nor) (members : List (Fields Value)) (rest : Fields Value) :
    isUnconstrained ((k, .list (members.map .map)) :: rest) =
      ((if g = .or then members.any isUnconstrained else members.all isUnconstrained) &&
        isUnconstrained rest) := by
  cases g with
  | and => simp [isUnconstrained, hk, allUnconstrained_eq_all, groupMembers_map]
  | or => simp [isUnconstrained, hk, anyUnconstrained_eq_any, groupMembers_map]
  | nor => exact absurd rfl hg

theorem meaningOfEntry_group {k : String} {g : Logical} (hk : Logical.ofKey? k = some g)
    (hg : g ≠ .nor) (cell : String → Option Value) (members : List (Fields Value)) :
    meaningOfEntry cell k (.list (members.map .map)) =
      if g = .or then Truth.any (members.map (meaningOfFields cell))
      else Truth.all (members.map (meaningOfFields cell)) := by
  cases g with
  | and => simp [meaningOfEntry, hk, meanings_map]
  | or => simp [meaningOfEntry, hk, meanings_map]
  | nor => exact absurd rfl hg

/-- A filter that constrains nothing is true. -/
theorem meaningOfFields_of_isUnconstrained {wanted : String → Value → Prop} {fields : Fields Value}
    (h : Filter.Everywhere wanted fields) (cell : String → Option Value)
    (hu : isUnconstrained fields = true) : meaningOfFields cell fields = some true := by
  induction h with
  | nil => rfl
  | field hk _ _ _ => simp [isUnconstrained, hk] at hu
  | nor hk _ _ ih =>
    rw [isUnconstrained_cons_nor hk] at hu
    rw [meaningOfFields, meaningOfEntry_nor hk, ih hu]
    rfl
  | @group k g rest members hk hg _ _ _ ihm ih =>
    rw [isUnconstrained_cons_group hk hg, Bool.and_eq_true] at hu
    rw [meaningOfFields, meaningOfEntry_group hk hg, ih hu.2, Truth.and_true]
    by_cases ho : g = .or
    · simp only [ho, if_true, List.any_eq_true] at hu ⊢
      obtain ⟨m, hm, hmu⟩ := hu.1
      exact Truth.any_eq_true (List.mem_map.2 ⟨m, hm, ihm m hm hmu⟩)
    · simp only [ho, if_false, List.all_eq_true] at hu ⊢
      refine Truth.all_eq_true fun a ha => ?_
      obtain ⟨m, hm, rfl⟩ := List.mem_map.1 ha
      exact ihm m hm (hu.1 m hm)

theorem prune_entryClauses_ne_nil {k : String} {g : Logical} (hk : Logical.ofKey? k = some g)
    (hg : g ≠ .nor) (ctx : Context) (table : Option String) {members : List (Fields Value)}
    (hu : (if g = .or then members.any isUnconstrained else members.all isUnconstrained) = false)
    (hm : ∀ m ∈ members, isUnconstrained m = false →
      Clause.prune (filterClauses ctx table m) ≠ []) :
    Clause.prune (entryClauses ctx table k (.list (members.map .map))) ≠ [] := by
  rw [entryClauses_group hk hg]
  by_cases ho : g = .or
  · rw [if_pos ho] at hu ⊢
    rw [hu]
    cases members with
    | nil => simp [joinMembers, closeGroup, Clause.prune, Clause.prune?]
    | cons m ms =>
      rw [List.any_cons, Bool.or_eq_false_iff] at hu
      exact prune_closeGroup_ne_nil (prune_joinMembers_ne_nil
        (List.mem_map_of_mem List.mem_cons_self) (hm m List.mem_cons_self hu.1) _)
  · rw [if_neg ho] at hu ⊢
    obtain ⟨m, hmem, hmu⟩ := List.all_eq_false.1 hu
    exact prune_closeGroup_ne_nil (prune_joinMembers_ne_nil (List.mem_map_of_mem hmem)
      (hm m hmem (by simpa using hmu)) _)

/-- A filter of fields that all constrain adds a clause, unless it consists of groups alone that
constrain nothing. -/
theorem prune_filterClauses_ne_nil {fields : Fields Value} (h : ConstrainsEverywhere fields)
    (ctx : Context) (table : Option String) (hu : isUnconstrained fields = false) :
    Clause.prune (filterClauses ctx table fields) ≠ [] := by
  induction h with
  | nil => simp [isUnconstrained] at hu
  | field hk hv _ _ =>
    rw [filterClauses_cons, Clause.prune_append, entryClauses, hk, prune_fieldClauses]
    simp [fieldClauses_ne_nil (hv hk)]
  | nor hk _ _ ih =>
    rw [isUnconstrained_cons_nor hk] at hu
    rw [filterClauses_cons, Clause.prune_append]
    simp [ih hu]
  | @group k g rest members hk hg _ _ _ ihm ih =>
    rw [isUnconstrained_cons_group hk hg, Bool.and_eq_false_iff] at hu
    rw [filterClauses_cons, Clause.prune_append]
    rcases hu with hu | hu
    · have hs := prune_entryClauses_ne_nil hk hg ctx table hu ihm
      simp [hs]
    · simp [ih hu]

/-- The truth of an `and` group is that of all its members, and of an `or` group that of some. An
`or` group is dropped only if a member is true of every row. -/
theorem truthOfList_entryClauses_group (row : Row) {k : String} {g : Logical}
    (hk : Logical.ofKey? k = some g) (hg : g ≠ .nor) (ctx : Context) (table : Option String)
    (cell : String → Option Value) {members : List (Fields Value)}
    (hshape : ∀ m ∈ members, IsTableFilter m)
    (hm : ∀ m ∈ members, Clause.truthOfList row (Clause.prune (filterClauses ctx table m)) =
      meaningOfFields cell m) :
    Clause.truthOfList row (Clause.prune (entryClauses ctx table k (.list (members.map .map)))) =
      meaningOfEntry cell k (.list (members.map .map)) := by
  have hmap : (members.map (filterClauses ctx table)).map
      (fun cs => Clause.truthOfList row (Clause.prune cs)) =
        members.map (meaningOfFields cell) := by
    rw [List.map_map]
    exact List.map_congr_left hm
  rw [entryClauses_group hk hg, meaningOfEntry_group hk hg]
  by_cases ho : g = .or
  · rw [if_pos ho, if_pos ho]
    cases hu : members.any isUnconstrained with
    | true =>
      obtain ⟨m, hmem, hmu⟩ := List.any_eq_true.1 hu
      have ht := meaningOfFields_of_isUnconstrained (hshape m hmem) cell hmu
      have hne : joinMembers .or (members.map (filterClauses ctx table)) ≠ [] := by
        cases members with
        | nil => simp at hmem
        | cons _ _ => simp [joinMembers]
      rw [Truth.any_eq_true (List.mem_map.2 ⟨m, hmem, ht⟩)]
      simp [closeGroup, hne, Clause.prune, Clause.truthOfList]
    | false =>
      cases members with
      | nil => rfl
      | cons m ms =>
        have hne : ∀ cs ∈ (m :: ms).map (filterClauses ctx table), Clause.prune cs ≠ [] := by
          intro cs hcs
          obtain ⟨n, hn, rfl⟩ := List.mem_map.1 hcs
          have hnu : isUnconstrained n = false := by simpa using List.any_eq_false.1 hu n hn
          exact prune_filterClauses_ne_nil (hshape n hn).constrains ctx table hnu
        have hleft := remaining_eq_self hne
        rw [truthOfList_closeGroup row (by simp [joinMembers]),
          truthOfList_joinMembers_or row (by rw [hleft]; simp), hleft, hmap]
  · rw [if_neg ho, if_neg ho]
    cases members with
    | nil => rfl
    | cons m ms =>
      rw [truthOfList_closeGroup row (by simp [joinMembers]), truthOfList_joinMembers_and, hmap]

/-- The clauses of a filter mean what the filter means. -/
theorem truthOfList_filterClauses (row : Row) (ctx : Context) (table : Option String)
    {fields : Fields Value} (h : IsTableFilter fields) :
    Clause.truthOfList row (Clause.prune (filterClauses ctx table fields)) =
      meaningOfFields (fun k => resolve row (ctx.qualifiedName k table)) fields := by
  induction h with
  | nil => rfl
  | field hk _ _ ih =>
    rw [truthOfList_filterClauses_cons, ih, meaningOfFields, meaningOfEntry_field hk,
      entryClauses, hk]
    exact congrArg (Truth.and · _) (truthOfList_fieldClauses row _ _)
  | nor hk _ _ ih =>
    rw [truthOfList_filterClauses_cons, ih, meaningOfFields, meaningOfEntry_nor hk,
      entryClauses, hk]
    rfl
  | group hk hg _ hm _ ihm ih =>
    rw [truthOfList_filterClauses_cons, ih, meaningOfFields,
      truthOfList_entryClauses_group row hk hg ctx table _ hm ihm]

/-- A group of members without faults has none. -/
theorem faultOfList?_closeGroup (row : Row) (joined : Connective) (unconstrained : Bool)
    {lists : List (List Clause)} (h : ∀ cs ∈ lists, Clause.faultOfList? row cs = none) :
    Clause.faultOfList? row (closeGroup joined unconstrained (joinMembers joined lists)) = none := by
  have hgroup (k : Connective) {cs : List Clause} (hcs : Clause.faultOfList? row cs = none) :
      (Clause.group k cs).fault? row = none := by
    simpa only [Clause.fault?] using hcs
  have hjoin : Clause.faultOfList? row (joinMembers joined lists) = none := by
    rw [faultOfList?_eq_none_iff]
    cases lists with
    | nil => simp [joinMembers]
    | cons first rest =>
      intro c hc
      simp only [joinMembers, List.mem_cons, List.mem_map] at hc
      rcases hc with rfl | ⟨cs, hcs, rfl⟩
      · exact hgroup _ (h first List.mem_cons_self)
      · exact hgroup _ (h cs (List.mem_cons_of_mem _ hcs))
  rw [faultOfList?_eq_none_iff]
  intro c hc
  unfold closeGroup at hc
  split at hc
  · split at hc
    · rw [List.mem_singleton.1 hc, Clause.fault?]
      all_goals simp
    · simp at hc
  · split at hc
    · simp at hc
    · rw [List.mem_singleton.1 hc]
      exact hgroup _ hjoin

theorem faultOfList?_entryClauses_group (row : Row) {k : String} {g : Logical}
    (hk : Logical.ofKey? k = some g) (hg : g ≠ .nor) (ctx : Context) (table : Option String)
    {members : List (Fields Value)}
    (hm : ∀ m ∈ members, Clause.faultOfList? row (filterClauses ctx table m) = none) :
    Clause.faultOfList? row (entryClauses ctx table k (.list (members.map .map))) = none := by
  have hlists : ∀ cs ∈ members.map (filterClauses ctx table), Clause.faultOfList? row cs = none :=
    List.forall_mem_map.2 hm
  rw [entryClauses_group hk hg]
  split
  · exact faultOfList?_closeGroup row _ _ hlists
  · exact faultOfList?_closeGroup row _ _ hlists

theorem faultOfList?_filterClauses (row : Row) (ctx : Context) (table : Option String)
    {fields : Fields Value} (h : IsTableFilter fields) :
    Clause.faultOfList? row (filterClauses ctx table fields) = none := by
  induction h with
  | nil => rfl
  | field hk hv _ ih =>
    rw [filterClauses_cons, faultOfList?_append, ih, entryClauses, hk]
    simp [faultOfList?_fieldClauses row _ (hv hk).2]
  | nor hk _ _ ih =>
    rw [filterClauses_cons, faultOfList?_append, ih, entryClauses, hk]
    rfl
  | group hk hg _ _ _ ihm ih =>
    rw [filterClauses_cons, faultOfList?_append, ih,
      faultOfList?_entryClauses_group row hk hg ctx table ihm]
    rfl

theorem evaluate_filterClauses (row : Row) (ctx : Context) (table : Option String)
    {fields : Fields Value} (h : IsTableFilter fields) :
    Clause.evaluate row (Clause.prune (filterClauses ctx table fields)) =
      .ok (meaningOfFields (fun k => resolve row (ctx.qualifiedName k table)) fields) := by
  rw [Clause.evaluate, faultOfList?_prune, faultOfList?_filterClauses row ctx table h,
    truthOfList_filterClauses row ctx table h]

/-- A fresh query that a filter narrows evaluates on every row, null and missing cells and cells of
other kinds included, to what the filter means in three-valued logic over the row's cells. -/
theorem evaluate_narrowed_query (row : Row) (ctx : Context) (name : String)
    (fields : Fields Value) (h : IsTableFilter fields) :
    Clause.evaluate row
        ((Query.ofTable name).filter (compile ctx (some name) (.map fields))).clauses =
      .ok (meaning (fun k => resolve row (ctx.qualifiedName k (some name))) (.map fields)) := by
  simpa [Query.ofTable, Query.filter, compile, meaning] using
    evaluate_filterClauses row ctx (some name) h

theorem evaluate_adults_named :
    let adult : Fields Value := [("age", .map [("gte", .int 18)])]
    let kept : Fields Value := [("deleted", .null)]
    let named : Value := .map [("like", .str "A%")]
    let fields : Fields Value :=
      [("name", named), ("or", .list ([adult, kept].map .map))]
    IsTableFilter fields ∧
      Clause.evaluate [("age", .null), ("deleted", .bool true), ("name", .str "Ada")]
        ((Query.ofTable "people").filter (compile .default (some "people") (.map fields))).clauses =
          .ok none := by
  intro adult kept named fields
  have hadult : IsTableFilter adult := by
    refine .field rfl (fun _ => ⟨⟨("gte", .int 18), by simp, .gte, by decide, rfl⟩, ?_⟩) .nil
    simp [PatternsFit]
  have hkept : IsTableFilter kept := .field rfl (fun _ => ⟨trivial, trivial⟩) .nil
  have hnamed : Constrains named ∧ PatternsFit named := by
    refine ⟨⟨("like", .str "A%"), by simp, .like, by decide, rfl⟩, ?_⟩
    intro e he s hs
    rw [List.mem_singleton.1 he] at hs ⊢
    cases hs
    exact ⟨fun _ => by decide +kernel, fun h => absurd h (by decide)⟩
  have hmembers : ∀ m ∈ [adult, kept], IsTableFilter m := by
    intro m hm
    rcases List.mem_cons.1 hm with rfl | hm
    · exact hadult
    · rw [List.mem_singleton.1 hm]
      exact hkept
  have h : IsTableFilter fields :=
    .field rfl (fun _ => hnamed) (.group rfl (g := .or) (by decide) (by simp [Logical.ofKey?])
      hmembers .nil)
  have hunknown : meaning (fun k => resolve
      [("age", .null), ("deleted", .bool true), ("name", .str "Ada")]
      (Context.default.qualifiedName k (some "people"))) (.map fields) = none := by
    decide +kernel
  exact ⟨h, by rw [evaluate_narrowed_query _ .default "people" fields h, hunknown]⟩

end PagedFilter.Table
