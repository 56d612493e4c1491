import Mathlib.Data.List.Basic
import PagedFilter.Page.Filter
import PagedFilter.Proofs.Document.Faults
import PagedFilter.Proofs.Document.Keys
import PagedFilter.Proofs.Listing
import PagedFilter.Proofs.Table.Meaning

/-!
Filters whose groups hold anything. Members that are no maps are strays. The table store leaves them
out, so that a filter in the words of both stores is never an error to it; the document store refuses
a stray when it is reached, and nothing else.
-/

namespace PagedFilter.Filter

open Document Table

/-! ### Words of both stores -/

/-- The operators that both stores know. -/
def sharedOperators : List Operator := [.eq, .ne, .neq, .isIn, .notIn, .gt, .gte, .lt, .lte]

def isGroupName (key : String) : Bool := key == "and" || key == "or"

/-- What a group holds: the items of a list, in whichever form it is written, or one value. -/
def asList : Value → List Value
  | .list items => items
  | .map fields => if isIndexKeyed fields then inIndexOrder fields else [.map fields]
  | v => [v]

/-- A map of operators that both stores know, or any value that is no such map. -/
def HoldsSharedOperators (v : Value) : Prop :=
  ∀ operators, v = .map operators → isIndexKeyed operators = false →
    ∀ e ∈ operators, ∃ op ∈ sharedOperators, e.1 = op.name

/-- Filters in the words of both stores, as they may be written: the fields hold operators, and the
groups `and` and `or` hold anything. What is no map, or a map that stands for a list, may stand for a
filter as well. -/
inductive SharesWords : Value → Prop
  | other {v} (hv : ∀ fields, v = .map fields → isIndexKeyed fields = true) : SharesWords v
  | tree {fields : Fields Value}
      (hfields : ∀ e ∈ fields, isGroupName e.1 = false →
        isNative e.1 = false ∧ Logical.ofKey? e.1 = none ∧ HoldsSharedOperators e.2)
      (hgroups : ∀ e ∈ fields, isGroupName e.1 = true → ∀ w ∈ asList e.2, SharesWords w) :
      SharesWords (.map fields)

/-! ### Strays -/

mutual

/-- The values in a canonical filter that stand for filters, but are no maps. -/
def strays : Value → List Value
  | .map fields => straysOfFields fields
  | v => [v]

def straysOfFields : List (String × Value) → List Value
  | [] => []
  | (k, v) :: rest => straysOfEntry k v ++ straysOfFields rest

def straysOfEntry (k : String) : Value → List Value
  | .list items => if isGroupName k then straysOfItems items else []
  | _ => []

def straysOfItems : List Value → List Value
  | [] => []
  | v :: rest => strays v ++ straysOfItems rest

end

theorem strays_of_not_isMap {v : Value} (h : v.isMap = false) : strays v = [v] := by
  cases v with
  | map _ => cases h
  | _ => rfl

theorem mem_straysOfItems {s w : Value} {items : List Value} (hw : w ∈ items) (hs : s ∈ strays w) :
    s ∈ straysOfItems items := by
  induction items with
  | nil => cases hw
  | cons v rest ih =>
    rw [straysOfItems, List.mem_append]
    rcases List.mem_cons.1 hw with rfl | hw
    · exact .inl hs
    · exact .inr (ih hw)

theorem mem_strays_map {s : Value} {k : String} {v : Value} {fields : Fields Value}
    (he : (k, v) ∈ fields) (hs : s ∈ straysOfEntry k v) : s ∈ strays (.map fields) := by
  rw [strays]
  induction fields with
  | nil => cases he
  | cons e rest ih =>
    rw [straysOfFields, List.mem_append]
    rcases List.mem_cons.1 he with rfl | he
    · exact .inl hs
    · exact .inr (ih he)

/-! ### Canonical forms -/

theorem requiresList_of_isGroupName {k : String} (h : isGroupName k = true) :
    requiresList k = true := by
  rw [isGroupName, Bool.or_eq_true, beq_iff_eq, beq_iff_eq] at h
  rcases h with rfl | rfl <;> decide

/-- The canonical form of what a group holds is a list of the canonical forms. -/
theorem listUnder_normalize {k : String} (hk : requiresList k = true) (v : Value) :
    listUnder k (normalize v) = .list ((asList v).map normalize) := by
  have hbare : ∀ w : Value, w.isList = false → listUnder k w = .list [w] := by
    intro w hw
    rw [listUnder, hk, hw]
    rfl
  have hlist : ∀ items : List Value, listUnder k (.list items) = .list items :=
    fun items => listUnder_of_isList fun _ => rfl
  cases v with
  | list items => rw [normalize_list, hlist, asList]
  | map fields =>
    cases hindex : isIndexKeyed fields with
    | true => rw [normalize_indexKeyed hindex, hlist, asList, if_pos hindex]
    | false =>
      rw [asList, hindex, if_neg Bool.false_ne_true, List.map_singleton, normalize_named hindex]
      exact hbare _ rfl
  | _ => exact hbare _ rfl

theorem isMap_normalize {v : Value} (h : ∀ fields, v = .map fields → isIndexKeyed fields = true) :
    (normalize v).isMap = false := by
  cases v with
  | list items =>
    rw [normalize_list]
    rfl
  | map fields =>
    rw [normalize_indexKeyed (h fields rfl)]
    rfl
  | _ => rfl

/-- Normalizing keeps the names of operators. -/
theorem HoldsSharedOperators.normalize {v : Value} (h : HoldsSharedOperators v) (k : String)
    (operators : Fields Value) (hv : listUnder k (normalize v) = .map operators) :
    ∀ e ∈ operators, ∃ op ∈ sharedOperators, e.1 = op.name := by
  have hnormal : Filter.normalize v = .map operators := by
    rw [listUnder] at hv
    split at hv
    · cases hv
    · exact hv
  cases v with
  | list items =>
    rw [normalize_list] at hnormal
    cases hnormal
  | map fields =>
    cases hindex : isIndexKeyed fields with
    | true =>
      rw [normalize_indexKeyed hindex] at hnormal
      cases hnormal
    | false =>
      rw [normalize_named hindex, Value.map.injEq] at hnormal
      intro e he
      rw [← hnormal] at he
      obtain ⟨d, hd, rfl⟩ := List.mem_map.1 he
      exact h fields rfl hindex d hd
  | _ => cases hnormal

/-! ### Documents -/

/-- No shared operator is an error, whatever its operand. -/
theorem meets_shared {op : Operator} (hop : op ∈ sharedOperators) (options value : Option Value)
    (operand : Value) : ∃ b, meets options value (nativeKey op.name) operand = .ok b := by
  have hkeys : ∀ op ∈ sharedOperators, nativeKey op.name ∈
      ["$eq", "$ne", "$in", "$nin", "$gt", "$gte", "$lt", "$lte"] := by decide
  have hkey := hkeys op hop
  generalize nativeKey op.name = key at hkey
  simp only [List.mem_cons, List.not_mem_nil, or_false] at hkey
  rcases hkey with rfl | rfl | rfl | rfl | rfl | rfl | rfl | rfl <;> exact ⟨_, rfl⟩

theorem nativeKey_shared_ne {op : Operator} (hop : op ∈ sharedOperators) :
    nativeKey op.name ≠ "$elemMatch" := by
  have hkeys : ∀ op ∈ sharedOperators, nativeKey op.name ≠ "$elemMatch" := by decide
  exact hkeys op hop

/-- A condition of operators under keys of shared ones has no fault. -/
theorem fault?_of_shared {k : String} (hk : isNative k = false) {condition : Fields Value}
    (h : ∀ e ∈ condition, ∃ op ∈ sharedOperators, e.1 = nativeKey op.name) {p : Part}
    (hp : p ∈ partsOfClause k (.map condition)) : p.fault? = none := by
  rw [partsOfClause, isGroupKey_of_not_isNative hk, hk, if_neg Bool.false_ne_true,
    if_neg Bool.false_ne_true] at hp
  split at hp
  · obtain ⟨e, he, hp⟩ := mem_partsOfOperators_iff.1 hp
    obtain ⟨op, hop, hkey⟩ := h e he
    obtain ⟨b, hb⟩ := meets_shared hop (Fields.find? condition "$options") none e.2
    rw [hkey, partsOfOperator_of_ne (nativeKey_shared_ne hop)] at hp
    rw [List.mem_singleton.1 hp, Part.fault?, hb]
  · cases hp

/-- A field whose operators both stores know compiles to a condition without faults. -/
theorem exists_compileField_shared {v : Value}
    (h : ∀ operators, v = .map operators → ∀ e ∈ operators, ∃ op ∈ sharedOperators, e.1 = op.name) :
    ∃ condition, compileField v = .map condition ∧
      ∀ e ∈ condition, ∃ op ∈ sharedOperators, e.1 = nativeKey op.name := by
  cases v with
  | list items =>
    have hkey : "$in" = nativeKey Operator.isIn.name := by decide
    exact ⟨_, rfl, List.forall_mem_singleton.2 ⟨.isIn, by decide, hkey⟩⟩
  | map operators =>
    refine ⟨_, rfl, fun e he => ?_⟩
    rw [nativeEntries_eq_map, Fields.mem_ofList_map_iff nativeEntry_fst] at he
    obtain ⟨d, hd, rfl⟩ := he
    obtain ⟨op, hop, hname⟩ := h operators rfl d (Fields.mem_of_mem_kept _ hd)
    exact ⟨op, hop, congrArg nativeKey hname⟩
  | _ =>
    have hkey : "$eq" = nativeKey Operator.eq.name := by decide
    exact ⟨_, rfl, List.forall_mem_singleton.2 ⟨.eq, by decide, hkey⟩⟩

/-- An error that comes of a stray. -/
def RefusesStray (e : StoreError) (filter : Value) : Prop :=
  ∃ v ∈ strays filter, e = .unsupported (.filterOfType v.typeName)

theorem refusesStray_of_not_isMap {v : Value} (hm : v.isMap = false) {p : Part}
    (hp : p ∈ parts (Document.compile v)) {e : StoreError} (he : p.fault? = some e) :
    RefusesStray e v := by
  have hcompile : Document.compile v = v := by
    cases v with
    | map _ => cases hm
    | _ => rfl
  rw [hcompile, parts_of_not_isMap hm, List.mem_singleton] at hp
  rw [hp, Part.fault?, Option.some.injEq] at he
  exact ⟨v, by rw [strays_of_not_isMap hm]; exact List.mem_singleton.2 rfl, he.symm⟩

/-- A fault in the canonical form of a group is one of something that the group holds. -/
theorem exists_part_of_group {k : String} (hk : isGroupName k = true) {v : Value} {p : Part}
    (hp : p ∈ partsOfClause (compileEntry (k, listUnder k (normalize v))).1
      (compileEntry (k, listUnder k (normalize v))).2) :
    ∃ w ∈ asList v, p ∈ parts (Document.compile (normalize w)) := by
  have hgroup : ∃ g : Logical, Logical.ofKey? k = some g := by
    rw [isGroupName, Bool.or_eq_true, beq_iff_eq, beq_iff_eq] at hk
    rcases hk with rfl | rfl <;> exact ⟨_, rfl⟩
  obtain ⟨g, hg⟩ := hgroup
  rw [listUnder_normalize (requiresList_of_isGroupName hk), compileEntry, hg, compileMembers,
    partsOfClause, isGroupKey_logicalSymbol, if_pos rfl, compileItems_eq_map] at hp
  obtain ⟨f, hf, hp⟩ := mem_partsOfMembers_iff.1 hp
  obtain ⟨c, hc, rfl⟩ := List.mem_map.1 hf
  obtain ⟨w, hw, rfl⟩ := List.mem_map.1 hc
  exact ⟨w, hw, hp⟩

/-- The faults of the document filter of shared words are its strays, at every depth. -/
theorem SharesWords.refusesStray {raw : Value} (h : SharesWords raw) {p : Part}
    (hp : p ∈ parts (Document.compile (normalize raw))) {e : StoreError} (he : p.fault? = some e) :
    RefusesStray e (normalize raw) := by
  induction h with
  | other hv => exact refusesStray_of_not_isMap (isMap_normalize hv) hp he
  | @tree fields hfields hgroups ih =>
    cases hindex : isIndexKeyed fields with
    | true =>
      refine refusesStray_of_not_isMap (isMap_normalize fun others hothers => ?_) hp he
      rw [← Value.map.inj hothers]
      exact hindex
    | false =>
      rw [normalize_named hindex] at hp ⊢
      rw [Document.compile, parts, compileEntries_eq_map] at hp
      obtain ⟨c, hc, hp⟩ := mem_partsOfClauses_iff.1 hp
      rw [Fields.mem_ofList_map_iff compileEntry_fst] at hc
      obtain ⟨d, hd, rfl⟩ := hc
      obtain ⟨f, hf, rfl⟩ := List.mem_map.1 (Fields.mem_of_mem_kept _ hd)
      cases hname : isGroupName f.1 with
      | true =>
        obtain ⟨w, hw, hp⟩ := exists_part_of_group hname hp
        obtain ⟨s, hs, hstray⟩ := ih f hf hname w hw hp
        refine ⟨s, mem_strays_map (List.mem_map.2 ⟨f, hf, rfl⟩) ?_, hstray⟩
        rw [listUnder_normalize (requiresList_of_isGroupName hname), straysOfEntry, hname,
          if_pos rfl]
        exact mem_straysOfItems (List.mem_map_of_mem hw) hs
      | false =>
        obtain ⟨hnative, hkey, hshared⟩ := hfields f hf hname
        obtain ⟨condition, hcondition, hall⟩ :=
          exists_compileField_shared (hshared.normalize f.1)
        simp only [compileEntry, hkey, hcondition] at hp
        rw [fault?_of_shared hnative hall hp] at he
        cases he

/-! ### Tables -/

theorem patternsFit_of_shared {v : Value}
    (h : ∀ operators, v = .map operators → ∀ e ∈ operators, ∃ op ∈ sharedOperators, e.1 = op.name) :
    PatternsFit v := by
  have hnames : ∀ op ∈ sharedOperators,
      Operator.ofName? op.name ≠ some .like ∧ Operator.ofName? op.name ≠ some .ilike := by decide
  cases v with
  | map operators =>
    intro e he s _
    obtain ⟨op, hop, hname⟩ := h operators rfl e he
    rw [hname]
    exact ⟨fun hlike => absurd hlike (hnames op hop).1, fun hilike => absurd hilike (hnames op hop).2⟩
  | _ => trivial

theorem compile_of_not_isMap {v : Value} (hm : v.isMap = false) (ctx : Context)
    (table : Option String) : Table.compile ctx table v = [] := by
  cases v with
  | map _ => cases hm
  | _ => rfl

theorem faultOfList?_group (row : Row) {k : String} (hk : isGroupName k = true) (ctx : Context)
    (table : Option String) {items : List Value}
    (h : ∀ w ∈ items, Clause.faultOfList? row (Table.compile ctx table w) = none) :
    Clause.faultOfList? row (entryClauses ctx table k (.list items)) = none := by
  have hlists : ∀ cs ∈ (groupMembers (.list items)).map (filterClauses ctx table),
      Clause.faultOfList? row cs = none := by
    refine List.forall_mem_map.2 fun m hm => ?_
    obtain ⟨w, hw, hmap⟩ := List.mem_filterMap.1 hm
    have hclauses := h w hw
    rw [Value.map?_eq_some_iff.1 hmap] at hclauses
    exact hclauses
  rw [isGroupName, Bool.or_eq_true, beq_iff_eq, beq_iff_eq] at hk
  rcases hk with rfl | rfl
  · show Clause.faultOfList? row (groupClauses ctx table .and (.list items)) = none
    rw [groupClauses_eq_closeGroup]
    exact faultOfList?_closeGroup row _ _ hlists
  · show Clause.faultOfList? row (groupClauses ctx table .or (.list items)) = none
    rw [groupClauses_eq_closeGroup]
    exact faultOfList?_closeGroup row _ _ hlists

theorem faultOfList?_of_entries (row : Row) (ctx : Context) (table : Option String)
    {fields : Fields Value}
    (h : ∀ e ∈ fields, Clause.faultOfList? row (entryClauses ctx table e.1 e.2) = none) :
    Clause.faultOfList? row (filterClauses ctx table fields) = none := by
  induction fields with
  | nil => rfl
  | cons e rest ih =>
    rw [filterClauses_cons, faultOfList?_append, h e List.mem_cons_self,
      ih fun f hf => h f (List.mem_cons_of_mem e hf)]
    rfl

/-- The clauses of shared words have no faults, as tables leave strays out. -/
theorem SharesWords.faultOfList?_compile {raw : Value} (h : SharesWords raw) (row : Row)
    (ctx : Context) (table : Option String) :
    Clause.faultOfList? row (Table.compile ctx table (normalize raw)) = none := by
  induction h with
  | other hv =>
    rw [compile_of_not_isMap (isMap_normalize hv)]
    rfl
  | @tree fields hfields _ ih =>
    cases hindex : isIndexKeyed fields with
    | true =>
      rw [normalize_indexKeyed hindex]
      rfl
    | false =>
      rw [normalize_named hindex, Table.compile]
      refine faultOfList?_of_entries row ctx table (List.forall_mem_map.2 fun f hf => ?_)
      cases hname : isGroupName f.1 with
      | true =>
        rw [listUnder_normalize (requiresList_of_isGroupName hname)]
        exact faultOfList?_group row hname ctx table (List.forall_mem_map.2 (ih f hf hname))
      | false =>
        obtain ⟨_, hkey, hshared⟩ := hfields f hf hname
        rw [entryClauses, hkey]
        exact faultOfList?_fieldClauses row _ (patternsFit_of_shared (hshared.normalize f.1))

/-! ### Both stores -/

/-- A filter in the words of both stores, whatever its groups hold, is never an error to a table. The
documents of the same rows refuse it only for a stray that they reach, by the name of its type, and
never if it has none. -/
theorem documents_refuse_strays_alone (rows : List Row) (name : String) (ctx : Context)
    {raw : Value} (h : SharesWords raw) :
    let filter := normalize raw
    let table := Table.ofRows name rows
    let find := (Collection.ofList rows).find (Document.compile filter)
    (∃ found, table.fetch (Page.narrow table.query raw ctx) = .ok found) ∧
      (∀ keys skip limit e, find keys skip limit = .error e →
        ∃ v ∈ strays filter, e = .unsupported (.filterOfType v.typeName)) ∧
      (strays filter = [] → ∀ keys skip limit, ∃ found, find keys skip limit = .ok found) := by
  intro filter table find
  have hrefuses : ∀ keys skip limit e, find keys skip limit = .error e → RefusesStray e filter := by
    intro keys skip limit e he
    obtain ⟨p, hp, hfault⟩ := isFaultOf_select rfl (error_of_map_eq_error he)
    exact h.refusesStray hp hfault
  refine ⟨?_, hrefuses, fun hnone keys skip limit => ?_⟩
  · have hclauses : (Page.narrow table.query raw ctx).clauses =
        Clause.prune (Table.compile ctx (some name) filter) := List.nil_append _
    have hfaults : ∀ row ∈ table.rows,
        Clause.faultOfList? row (Page.narrow table.query raw ctx).clauses = none := by
      intro row _
      rw [hclauses, faultOfList?_prune]
      exact h.faultOfList?_compile row ctx (some name)
    rw [Table.fetch, select_of_no_faults rfl hfaults]
    exact ⟨_, rfl⟩
  · cases hfind : find keys skip limit with
    | ok found => exact ⟨found, rfl⟩
    | error e =>
      obtain ⟨v, hv, _⟩ := hrefuses keys skip limit e hfind
      rw [hnone] at hv
      cases hv

theorem written_alternatives_are_found :
    let older : Fields Value := [("age", .map [("gt", .int 40)])]
    let raw : Value := .map [("or", .map [("0", .map older), ("1", .map [("name", .str "Bo")])])]
    let rows : List Row := [[("age", .int 20), ("name", .str "Bo")], [("age", .int 30)]]
    SharesWords raw ∧ strays (normalize raw) = [] ∧
      ∃ found, (Collection.ofList rows).find (Document.compile (normalize raw)) [] 0 none =
        .ok found := by
  intro older raw rows
  have hage : HoldsSharedOperators (.map [("gt", .int 40)]) := by
    intro operators hoperators _
    rw [← Value.map.inj hoperators]
    exact List.forall_mem_singleton.2 ⟨.gt, by decide, rfl⟩
  have hname : HoldsSharedOperators (.str "Bo") := nofun
  have holder : SharesWords (.map older) :=
    .tree (List.forall_mem_singleton.2 fun _ => ⟨by decide, by decide, hage⟩)
      (List.forall_mem_singleton.2 nofun)
  have hbo : SharesWords (.map [("name", .str "Bo")]) :=
    .tree (List.forall_mem_singleton.2 fun _ => ⟨by decide, by decide, hname⟩)
      (List.forall_mem_singleton.2 nofun)
  have hmembers : asList (.map [("0", .map older), ("1", .map [("name", .str "Bo")])]) =
      [.map older, .map [("name", .str "Bo")]] := by decide +kernel
  have h : SharesWords raw := by
    refine .tree (List.forall_mem_singleton.2 nofun) (List.forall_mem_singleton.2 fun _ => ?_)
    rw [hmembers]
    exact List.forall_mem_cons.2 ⟨holder, List.forall_mem_singleton.2 hbo⟩
  have hnone : strays (normalize raw) = [] := by decide +kernel
  obtain ⟨_, _, hfind⟩ := documents_refuse_strays_alone rows "people" .default h
  exact ⟨h, hnone, hfind hnone [] 0 none⟩

/-- A number in the place of alternatives, and one among them. The table finds no row for the first
filter and the row of the last alternative for the second; the documents refuse both. -/
theorem documents_refuse_what_tables_leave_out :
    let bare : Value := .map [("or", .int 5)]
    let mixed : Value := .map [("or", .list [.map [("a", .int 2)], .int 5, .map [("a", .int 1)]])]
    let rows : List Row := [[("a", .int 1)]]
    let table := Table.ofRows "t" rows
    let find (raw : Value) :=
      (Collection.ofList rows).find (Document.compile (normalize raw)) [] 0 none
    table.fetch (Page.narrow table.query bare .default) = .ok [] ∧
      table.fetch (Page.narrow table.query mixed .default) = .ok rows ∧
      find bare = .error (.unsupported (.filterOfType "int")) ∧
      find mixed = .error (.unsupported (.filterOfType "int")) := by
  intro bare mixed rows table find
  decide +kernel

end PagedFilter.Filter
