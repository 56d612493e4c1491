import PagedFilter.Table.Compile
import PagedFilter.Table.Evaluate

/-!
The meaning of a filter in three-valued logic: over the cells of a row, by recursion on the filter,
without clauses.
-/

namespace PagedFilter.Table

namespace Truth

def all : List Truth → Truth
  | [] => some true
  | a :: rest => a.and (all rest)

def any : List Truth → Truth
  | [] => some false
  | a :: rest => a.or (any rest)

theorem true_or (a : Truth) : or (some true) a = some true := by rcases a with _ | _ | _ <;> rfl

theorem or_true (a : Truth) : or a (some true) = some true := by rcases a with _ | _ | _ <;> rfl

theorem some_and_some (a b : Bool) : and (some a) (some b) = some (a && b) := by
  cases a <;> cases b <;> rfl

theorem some_or_some (a b : Bool) : or (some a) (some b) = some (a || b) := by
  cases a <;> cases b <;> rfl

theorem and_beq_true (a b : Truth) :
    (and a b == some true) = (a == some true && b == some true) := by
  rcases a with _ | _ | _ <;> rcases b with _ | _ | _ <;> rfl

theorem all_append (as bs : List Truth) : all (as ++ bs) = (all as).and (all bs) := by
  induction as with
  | nil => exact (true_and _).symm
  | cons a rest ih => rw [List.cons_append, all, all, ih, and_assoc]

theorem all_eq_true {as : List Truth} (h : ∀ a ∈ as, a = some true) : all as = some true := by
  induction as with
  | nil => rfl
  | cons a rest ih =>
    rw [all, h a (by simp), ih fun b hb => h b (by simp [hb])]
    rfl

theorem any_eq_true {as : List Truth} (h : some true ∈ as) : any as = some true := by
  induction as with
  | nil => simp at h
  | cons a rest ih =>
    rcases List.mem_cons.1 h with rfl | h
    · exact true_or _
    · rw [any, ih h, or_true]

theorem all_map_some (bs : List Bool) : all (bs.map some) = some (bs.all id) := by
  induction bs with
  | nil => rfl
  | cons b rest ih =>
    rw [List.map_cons, all, ih, some_and_some]
    rfl

theorem any_map_some (bs : List Bool) : any (bs.map some) = some (bs.any id) := by
  induction bs with
  | nil => rfl
  | cons b rest ih =>
    rw [List.map_cons, any, ih, some_or_some]
    rfl

end Truth

/-! ### Cells -/

/-- A test of a cell against an operand; unknown where one of them is missing or null. -/
def known (test : Value → Value → Truth) (operand : Value) : Option Value → Truth
  | none => none
  | some v => if v.isNull || operand.isNull then none else test v operand

/-- A comparison of a cell with an operand; unknown between values of different kinds. -/
def comparison (wanted : Ordering → Bool) : Value → Option Value → Truth :=
  known fun v x => if v.kind = x.kind then some (wanted (v.compare x)) else none

/-- Whether a cell equals one of several values: the alternative of the equalities. -/
def oneOf (values : List Value) (cell : Option Value) : Truth :=
  Truth.any (values.map fun x => known (fun v x => some (v.looseEq x)) x cell)

/-- What an operator with its operand says about a cell. Equality with null asks for null, and
operators without a meaning for tables say nothing. -/
def atom (op : Operator) (operand : Value) (cell : Option Value) : Truth :=
  match op with
  | .eq => if operand.isNull then some (isNullCell cell) else comparison (· == .eq) operand cell
  | .ne | .neq =>
    if operand.isNull then some (!isNullCell cell) else comparison (· != .eq) operand cell
  | .gt => comparison (· == .gt) operand cell
  | .gte => comparison (· != .lt) operand cell
  | .lt => comparison (· == .lt) operand cell
  | .lte => comparison (· != .gt) operand cell
  | .isIn => oneOf (listed operand) cell
  | .notIn => (oneOf (listed operand) cell).not
  | .like => known (likeTruth false) operand cell
  | .ilike => known (likeTruth true) operand cell
  | .isNull => some (isNullCell cell != isRefusal operand)
  | .isNotNull => some (isNullCell cell == isRefusal operand)
  | _ => some true

/-- What a named operator says about a cell; unknown names say nothing. -/
def namedAtom (cell : Option Value) (e : String × Value) : Truth :=
  match Operator.ofName? e.1 with
  | some op => atom op e.2 cell
  | none => some true

/-- What a field of a filter says about its cell. -/
def fieldMeaning (cell : Option Value) : Value → Truth
  | .map operators => Truth.all (operators.map (namedAtom cell))
  | .list items => oneOf items cell
  | v => atom .eq v cell

/-! ### Filters -/

mutual

/-- The meaning of a filter over cells: of what is no map, none. -/
def meaning (cell : String → Option Value) : Value → Truth
  | .map fields => meaningOfFields cell fields
  | _ => some true

def meanings (cell : String → Option Value) : List Value → List Truth
  | [] => []
  | v :: rest => meaning cell v :: meanings cell rest

/-- All entries of a filter at once. -/
def meaningOfFields (cell : String → Option Value) : List (String × Value) → Truth
  | [] => some true
  | (k, v) :: rest => (meaningOfEntry cell k v).and (meaningOfFields cell rest)

def meaningOfEntry (cell : String → Option Value) (k : String) : Value → Truth
  | .list items =>
    match Logical.ofKey? k with
    | some .and => Truth.all (meanings cell items)
    | some .or => Truth.any (meanings cell items)
    | some .nor => some true
    | none => fieldMeaning (cell k) (.list items)
  | v => if (Logical.ofKey? k).isSome then some true else fieldMeaning (cell k) v

end

theorem meanings_map (cell : String → Option Value) (members : List (Fields Value)) :
    meanings cell (members.map .map) = members.map (meaningOfFields cell) := by
  induction members with
  | nil => rfl
  | cons m rest ih => simp [meanings, meaning, ih]

theorem meaningOfEntry_field {cell : String → Option Value} {k : String}
    (hk : Logical.ofKey? k = none) (v : Value) :
    meaningOfEntry cell k v = fieldMeaning (cell k) v := by
  cases v <;> simp [meaningOfEntry, hk]

theorem meaningOfEntry_nor {cell : String → Option Value} {k : String}
    (hk : Logical.ofKey? k = some .nor) (v : Value) : meaningOfEntry cell k v = some true := by
  cases v <;> simp [meaningOfEntry, hk]

end PagedFilter.Table
