import PagedFilter.Table.Clause
import PagedFilter.Table.Context

/-!
Compiling filters to clauses. The keys of a filter are joined by `and`. A group becomes one clause
whose members are groups themselves. An `or` without members holds for no row, and one with a member
that constrains nothing adds no clause. Operators without a meaning for tables add nothing.
-/

namespace PagedFilter.Table

/-- The values that a membership operand lists; a bare value is a list of one. -/
def listed : Value → List Value
  | .list items => items
  | v => [v]

/-- Whether an operand turns a null test around: `false`, or its spelling in a query string. -/
def isRefusal : Value → Bool
  | .bool b => !b
  | .str s => s == "false"
  | _ => false

/-- The clause of an operator on a column; none without a meaning for tables. Equality with null
tests for null. -/
def operatorClause? (op : Operator) (column : String) (operand : Value) : Option Clause :=
  match op with
  | .eq => some (if operand.isNull then .isNull column else .compare column .eq operand)
  | .ne | .neq => some (if operand.isNull then .isNotNull column else .compare column .ne operand)
  | .gt => some (.compare column .gt operand)
  | .gte => some (.compare column .gte operand)
  | .lt => some (.compare column .lt operand)
  | .lte => some (.compare column .lte operand)
  | .isIn => some (.isIn column (listed operand))
  | .notIn => some (.notIn column (listed operand))
  | .like => some (.compare column .like operand)
  | .ilike => some (.compare column .ilike operand)
  | .isNull => some (if isRefusal operand then .isNotNull column else .isNull column)
  | .isNotNull => some (if isRefusal operand then .isNull column else .isNotNull column)
  | _ => none

/-- The clauses of named operators on a column; unknown names add nothing. -/
def operatorClauses (column : String) (operators : Fields Value) : List Clause :=
  operators.filterMap fun e => (Operator.ofName? e.1).bind (operatorClause? · column e.2)

/-- The clauses of a field: its operators, membership for a list, equality for any other value. -/
def fieldClauses (column : String) : Value → List Clause
  | .map operators => operatorClauses column operators
  | .list items => [.isIn column items]
  | v => (operatorClause? .eq column v).toList

mutual

/-- Whether a filter consists of groups alone that constrain nothing, so that it adds no clause. -/
def isUnconstrained : List (String × Value) → Bool
  | [] => true
  | (k, v) :: rest =>
    (match Logical.ofKey? k with
      | some .or => anyUnconstrained v
      | some .and => allUnconstrained v
      | some .nor => true
      | none => false) && isUnconstrained rest

/-- Whether some member of a group constrains nothing; only maps are members. -/
def anyUnconstrained : Value → Bool
  | .list items => anyMember items
  | .map fields => isUnconstrained fields
  | _ => false

def anyMember : List Value → Bool
  | [] => false
  | v :: rest => memberIs true v || anyMember rest

/-- Whether no member of a group constrains anything. -/
def allUnconstrained : Value → Bool
  | .list items => allMembers items
  | .map fields => isUnconstrained fields
  | _ => true

def allMembers : List Value → Bool
  | [] => true
  | v :: rest => !memberIs false v && allMembers rest

/-- Whether a value is a member that constrains nothing, or with `false`, one that constrains. -/
def memberIs (unconstrained : Bool) : Value → Bool
  | .map fields => isUnconstrained fields == unconstrained
  | _ => false

end

/-- Members as groups; the first one has nothing before it to join. -/
def joinMembers (members : Connective) : List (List Clause) → List Clause
  | [] => []
  | first :: rest => .group .and first :: rest.map (.group members)

/-- Closes a group around its members. -/
def closeGroup (members : Connective) (unconstrained : Bool) (groups : List Clause) : List Clause :=
  if groups.isEmpty then (if members = .or then [.never] else [])
  else if members = .or ∧ unconstrained then []
  else [.group .and groups]

mutual

/-- The clauses of a filter's fields and groups, in the order of the keys. -/
def filterClauses (ctx : Context) (table : Option String) : List (String × Value) → List Clause
  | [] => []
  | (k, v) :: rest =>
    (match Logical.ofKey? k with
      | some .or => groupClauses ctx table .or v
      | some .and => groupClauses ctx table .and v
      | some .nor => []
      | none => fieldClauses (ctx.qualifiedName k table) v) ++ filterClauses ctx table rest

/-- The clause of a group whose members are joined by a connective. -/
def groupClauses (ctx : Context) (table : Option String) (members : Connective) :
    Value → List Clause
  | .list items =>
    closeGroup members (anyMember items) (joinMembers members (memberLists ctx table items))
  | .map fields =>
    closeGroup members (isUnconstrained fields) [.group .and (filterClauses ctx table fields)]
  | _ => closeGroup members false []

/-- The clauses of each member that is a map. -/
def memberLists (ctx : Context) (table : Option String) : List Value → List (List Clause)
  | [] => []
  | v :: rest => (memberClauses ctx table v).toList ++ memberLists ctx table rest

def memberClauses (ctx : Context) (table : Option String) : Value → Option (List Clause)
  | .map fields => some (filterClauses ctx table fields)
  | _ => none

end

/-- The clauses that a filter adds to a query on a table; what is no map adds none. -/
def compile (ctx : Context) (table : Option String) : Value → List Clause
  | .map fields => filterClauses ctx table fields
  | _ => []

theorem compile_emptyMap (ctx : Context) (table : Option String) :
    compile ctx table Value.emptyMap = [] := by
  simp [compile, Value.emptyMap, filterClauses]

theorem filterClauses_append (ctx : Context) (table : Option String)
    (as bs : List (String × Value)) : filterClauses ctx table (as ++ bs) =
      filterClauses ctx table as ++ filterClauses ctx table bs := by
  induction as with
  | nil => simp [filterClauses]
  | cons a rest ih => simp [filterClauses, ih]

end PagedFilter.Table
