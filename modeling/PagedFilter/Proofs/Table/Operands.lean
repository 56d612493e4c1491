import PagedFilter.Proofs.Table.Mapped
import PagedFilter.Proofs.Table.Placeholders
import PagedFilter.Proofs.Table.Vanishing

/-!
Operands stay out of SQL. The text of a query depends on the form of a filter alone: its keys, the
lengths of its lists, and which of its operands are null. The operands themselves are bound, each to its
own placeholder.
-/

namespace PagedFilter

/-! ### The form of a filter -/

namespace Filter

/-- Operators that compare a column with a single operand. -/
def comparesOne : Operator → Bool
  | .eq | .ne | .neq | .gt | .gte | .lt | .lte | .like | .ilike => true
  | _ => false

/-- A value of which nothing is left but whether it is null. -/
def blank (v : Value) : Value := if v.isNull then .null else .bool true

/-- A list of which nothing is left but its length. -/
def blankList : Value → Value
  | .list items => .list (items.map fun _ => .null)
  | v => v

def operandForm (name : String) (operand : Value) : Value :=
  match Operator.ofName? name with
  | some op =>
    if comparesOne op then blank operand else if op.takesList then blankList operand else operand
  | none => operand

/-- What a field holds: the forms of its operators, the length of a list, or whether it is null. -/
def contentForm : Value → Value
  | .map operators => .map (operators.map fun e => (e.1, operandForm e.1 e.2))
  | .list items => blankList (.list items)
  | v => blank v

mutual

/-- A filter without its operands. Operands of other operators than comparisons, patterns and
membership are part of the form. -/
def form : Value → Value
  | .map fields => .map (formOfFields fields)
  | v => v

def formOfFields : List (String × Value) → List (String × Value)
  | [] => []
  | (k, v) :: rest =>
    (k, match Logical.ofKey? k with
      | some _ => formOfGroup v
      | none => contentForm v) :: formOfFields rest

def formOfGroup : Value → Value
  | .list members => .list (formOfMembers members)
  | .map fields => .map (formOfFields fields)
  | v => v

def formOfMembers : List Value → List Value
  | [] => []
  | v :: rest => form v :: formOfMembers rest

end

end Filter

namespace Table

/-! ### Other operands -/

namespace Clause

mutual

/-- The clause with each of its operands replaced. -/
def mapOperands (f : Value → Value) : Clause → Clause
  | compare column c operand => compare column c (f operand)
  | isIn column values => isIn column (values.map f)
  | notIn column values => notIn column (values.map f)
  | isNull column => isNull column
  | isNotNull column => isNotNull column
  | never => never
  | group joined clauses => group joined (mapOperandsOfList f clauses)

def mapOperandsOfList (f : Value → Value) : List Clause → List Clause
  | [] => []
  | c :: rest => mapOperands f c :: mapOperandsOfList f rest

end

variable (f : Value → Value)

theorem mapOperandsOfList_eq_map (cs : List Clause) :
    mapOperandsOfList f cs = cs.map (mapOperands f) := by
  induction cs with
  | nil => rfl
  | cons c rest ih => rw [mapOperandsOfList, ih, List.map_cons]

theorem connective_mapOperands (c : Clause) : (c.mapOperands f).connective = c.connective := by
  cases c <;> rfl

theorem keepsGroups_mapOperands : KeepsGroups (mapOperands f) where
  never := rfl
  group joined clauses := by rw [mapOperands, mapOperandsOfList_eq_map]
  atom c h := by
    cases c with
    | group joined clauses => exact absurd rfl (h joined clauses)
    | _ => rfl

/-- A group is empty or not, whatever its operands are. -/
theorem prune_mapOperands (cs : List Clause) :
    prune (mapOperandsOfList f cs) = mapOperandsOfList f (prune cs) := by
  rw [mapOperandsOfList_eq_map, mapOperandsOfList_eq_map, (keepsGroups_mapOperands f).prune_map]

end Clause

namespace Sql

variable (f : Value → Value)

mutual

theorem text_mapOperands : (c : Clause) → text (c.mapOperands f) = text c
  | .compare _ _ _ | .isNull _ | .isNotNull _ | .never => rfl
  | .isIn _ _ | .notIn _ _ => by
    simp only [Clause.mapOperands, text, placeholders, List.isEmpty_map, List.map_map,
      Function.comp_def]
  | .group _ clauses => by
    rw [Clause.mapOperands, text, text, textOfList_mapOperands clauses]

theorem textOfList_mapOperands : (cs : List Clause) →
    textOfList (Clause.mapOperandsOfList f cs) = textOfList cs
  | [] => rfl
  | c :: rest => by
    rw [Clause.mapOperandsOfList, textOfList, textOfList, text_mapOperands c,
      textOfRest_mapOperands rest]

theorem textOfRest_mapOperands : (cs : List Clause) →
    textOfRest (Clause.mapOperandsOfList f cs) = textOfRest cs
  | [] => rfl
  | c :: rest => by
    rw [Clause.mapOperandsOfList, textOfRest, textOfRest, text_mapOperands c,
      textOfRest_mapOperands rest, Clause.connective_mapOperands]

end

end Sql

/-- Queries that differ in the operands of their clauses alone. -/
theorem sql_eq_of_mapOperands {q q' : Query} (f : Value → Value) (htable : q.table = q'.table)
    (horder : q.order = q'.order) (hlimit : q.limit = q'.limit) (hoffset : q.offset = q'.offset)
    (h : Clause.mapOperandsOfList f q.clauses = Clause.mapOperandsOfList f q'.clauses) :
    q.sql = q'.sql ∧ q.countSql = q'.countSql := by
  have hempty (cs : List Clause) : (Clause.mapOperandsOfList f cs).isEmpty = cs.isEmpty := by
    cases cs <;> rfl
  have hwhere : Sql.whereText q.clauses = Sql.whereText q'.clauses := by
    rw [Sql.whereText, Sql.whereText, ← hempty, ← Sql.textOfList_mapOperands f, h, hempty,
      Sql.textOfList_mapOperands]
  constructor
  · unfold Query.sql
    rw [htable, hwhere, horder, hlimit, hoffset]
  · unfold Query.countSql
    rw [htable, hwhere]

/-! ### Clauses of forms -/

open PagedFilter.Filter

theorem isNull_blank (v : Value) : (blank v).isNull = v.isNull := by
  rw [blank]
  split
  · next h => exact h.symm
  · next h => exact (Bool.eq_false_iff.2 h).symm

/-- All operands gone. -/
abbrev bare : Clause → Clause := Clause.mapOperands fun _ => .null

theorem operatorClause?_operandForm (op : Operator) (column : String) (operand : Value) :
    (operatorClause? op column (operandForm op.name operand)).map bare =
      (operatorClause? op column operand).map bare := by
  rw [operandForm, Operator.ofName?_name]
  cases op with
  | eq | ne | neq =>
    simp only [comparesOne, if_true, operatorClause?, isNull_blank]
    split <;> rfl
  | isIn | notIn => cases operand <;> simp [comparesOne, Operator.takesList, operatorClause?,
      blankList, listed, Clause.mapOperands]
  | _ => rfl

theorem operatorClauses_form (column : String) (operators : Fields Value) :
    (operatorClauses column (operators.map fun e => (e.1, operandForm e.1 e.2))).map bare =
      (operatorClauses column operators).map bare := by
  rw [operatorClauses, operatorClauses, List.filterMap_map, List.map_filterMap, List.map_filterMap]
  congr 1
  funext e
  cases hop : Operator.ofName? e.1 with
  | none => simp [hop]
  | some op =>
    have hclause := operatorClause?_operandForm op column e.2
    rw [Operator.name_of_ofName? hop] at hclause
    simpa [hop] using hclause

theorem fieldClauses_contentForm (column : String) (v : Value) :
    (fieldClauses column (contentForm v)).map bare = (fieldClauses column v).map bare := by
  cases v with
  | map operators => exact operatorClauses_form column operators
  | list items =>
    simp [contentForm, blankList, fieldClauses, Clause.mapOperands]
  | _ => rfl

theorem form_map? (v : Value) : (form v).map? = v.map?.map formOfFields := by
  cases v <;> simp [form, Value.map?]

theorem groupMembers_formOfGroup (v : Value) :
    groupMembers (formOfGroup v) = (groupMembers v).map formOfFields := by
  have hmembers (items : List Value) : (formOfMembers items).filterMap Value.map? =
      (items.filterMap Value.map?).map formOfFields := by
    induction items with
    | nil => simp [formOfMembers]
    | cons v rest ih =>
      rw [formOfMembers, List.filterMap_cons, List.filterMap_cons, form_map?]
      cases v.map? <;> simp [ih]
  cases v with
  | list items => simpa [formOfGroup, groupMembers] using hmembers items
  | map fields => simp [formOfGroup, groupMembers]
  | _ => simp [formOfGroup, groupMembers]

theorem isUnconstrained_formOfFields (fields : Fields Value) :
    isUnconstrained (formOfFields fields) = isUnconstrained fields := by
  induction fields using fieldsInductionOn with
  | nil => rw [formOfFields]
  | cons k v rest ihm ih =>
    have hmembers : (groupMembers (formOfGroup v)).map isUnconstrained =
        (groupMembers v).map isUnconstrained := by
      rw [groupMembers_formOfGroup, List.map_map]
      exact List.map_congr_left ihm
    have hany := congrArg (List.any · id) hmembers
    have hall := congrArg (List.all · id) hmembers
    simp only [List.any_map, List.all_map, Function.id_comp] at hany hall
    rw [formOfFields, isUnconstrained_cons, isUnconstrained_cons, ih]
    cases hk : Logical.ofKey? k with
    | none => rfl
    | some g => cases g <;> simp only [hany, hall]

/-- The clauses of a filter and of its form are the same but for their operands. -/
theorem filterClauses_formOfFields (ctx : Context) (table : Option String) (fields : Fields Value) :
    (filterClauses ctx table (formOfFields fields)).map bare =
      (filterClauses ctx table fields).map bare := by
  induction fields using fieldsInductionOn with
  | nil => rw [formOfFields]
  | cons k v rest ihm ih =>
    have hkeeps : Clause.KeepsGroups bare := Clause.keepsGroups_mapOperands _
    have hgroup (joined : Connective) : (groupClauses ctx table joined (formOfGroup v)).map bare =
        (groupClauses ctx table joined v).map bare := by
      have hany : (groupMembers (formOfGroup v)).any isUnconstrained =
          (groupMembers v).any isUnconstrained := by
        rw [groupMembers_formOfGroup, List.any_map]
        exact congrArg _ (funext isUnconstrained_formOfFields)
      have hmembers : ((groupMembers (formOfGroup v)).map (filterClauses ctx table)).map
            (List.map bare) =
          ((groupMembers v).map (filterClauses ctx table)).map (List.map bare) := by
        rw [groupMembers_formOfGroup]
        simpa using ihm
      rw [groupClauses_eq_closeGroup, groupClauses_eq_closeGroup, hkeeps.map_closeGroup,
        hkeeps.map_closeGroup, hkeeps.map_joinMembers, hkeeps.map_joinMembers, hany, hmembers]
    rw [formOfFields, filterClauses_cons, filterClauses_cons, List.map_append, List.map_append, ih]
    congr 1
    rw [entryClauses, entryClauses]
    cases hk : Logical.ofKey? k with
    | none => exact fieldClauses_contentForm _ v
    | some g =>
      cases g with
      | and => exact hgroup .and
      | or => exact hgroup .or
      | nor => rfl

theorem compile_form (ctx : Context) (table : Option String) (t : Value) :
    (compile ctx table (form t)).map bare = (compile ctx table t).map bare := by
  cases t with
  | map fields => simpa [form, compile] using filterClauses_formOfFields ctx table fields
  | _ => simp [form]

/-! ### Queries -/

/-- Filters of one form make the same SQL of a query. The SQL of a query has a placeholder for every
operand, and with the operands put in their places in order, it is the text that writes each operand
where it belongs. -/
theorem sql_holds_no_operand :
    (∀ (ctx : Context) (q : Query) (t t' : Value), form t = form t' →
      (q.filter (compile ctx (some q.table) t)).sql =
          (q.filter (compile ctx (some q.table) t')).sql ∧
        (q.filter (compile ctx (some q.table) t)).countSql =
          (q.filter (compile ctx (some q.table) t')).countSql) ∧
    (∀ q : Query, (Sql.outside false q.sql.toList).count '?' = q.sqlBindings.length ∧
      (Sql.outside false q.countSql.toList).count '?' = q.countBindings.length) ∧
    ∀ (q : Query) (lit : Value → String),
      Sql.fill? lit false q.sql.toList q.sqlBindings = some (q.spelled lit).toList ∧
        Sql.fill? lit false q.countSql.toList q.countBindings =
          some (q.spelledCount lit).toList := by
  refine ⟨?_, ?_, ?_⟩
  · intro ctx q t t' hform
    refine sql_eq_of_mapOperands (fun _ => .null) rfl rfl rfl rfl ?_
    have hclauses : (compile ctx (some q.table) t).map bare =
        (compile ctx (some q.table) t').map bare := by
      rw [← compile_form, hform, compile_form]
    rw [← Clause.mapOperandsOfList_eq_map, ← Clause.mapOperandsOfList_eq_map] at hclauses
    have hpruned := congrArg Clause.prune hclauses
    rw [Clause.prune_mapOperands, Clause.prune_mapOperands] at hpruned
    simp only [Query.filter, Clause.mapOperandsOfList_eq_map, List.map_append] at hpruned ⊢
    rw [hpruned]
  · intro q
    exact ⟨Sql.count_of_fill? (fun _ => "") (Sql.fills_sql q).fill?_eq,
      Sql.count_of_fill? (fun _ => "") (Sql.fills_countSql q).fill?_eq⟩
  · intro q lit
    exact ⟨(Sql.fills_sql q).fill?_eq, (Sql.fills_countSql q).fill?_eq⟩

/-- Operands that look like SQL leave the text as it is, and are bound in the order of its
placeholders. -/
theorem written_operands_are_bound :
    let filter (name age first second : Value) : Value :=
      .map [("name", .map [("like", name)]),
        ("or", .list [.map [("age", age)], .map [("role", .list [first, second])]])]
    let query (t : Value) : Query := (Query.ofTable "t").filter (compile .default (some "t") t)
    let plain := query (filter (.str "a%") (.int 3) (.str "x") .null)
    let hostile := query (filter (.str "?' or 1 = 1 --") (.str "\"?\"") (.list []) (.int 2))
    plain.sql = "select * from \"t\" where \"t\".\"name\" like ? and " ++
        "((\"t\".\"age\" = ?) or (\"t\".\"role\" in (?, ?)))" ∧
      hostile.sql = plain.sql ∧
      hostile.sqlBindings = [.str "?' or 1 = 1 --", .str "\"?\"", .list [], .int 2] := by
  intro filter query plain hostile
  have hform : form (filter (.str "?' or 1 = 1 --") (.str "\"?\"") (.list []) (.int 2)) =
      form (filter (.str "a%") (.int 3) (.str "x") .null) := by
    decide +kernel
  have hsame := sql_holds_no_operand.1 .default (.ofTable "t") _ _ hform
  exact ⟨by decide +kernel, hsame.1, by decide +kernel⟩

end Table

end PagedFilter
