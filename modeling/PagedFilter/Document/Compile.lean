import PagedFilter.Value.Basic
import PagedFilter.Vocabulary

/-!
Document filters. A filter compiles to a map whose keys carry the mark of the document store: groups
take their symbol and compile their members, and each field holds operators under their native keys.
A list under a field stands for membership and any other value for equality. Where two keys compile to
one, the later one stays.
-/

namespace PagedFilter.Document

/-- Whether the operand of `elemMatch` holds operators for the element itself: every key is an operator
and at least one is native or compares values. -/
def isOperatorMap (fields : Fields Value) : Bool :=
  fields.all (fun f => isNative f.1 || (Operator.ofName? f.1).isSome) &&
    fields.any fun f => isNative f.1 || (Operator.ofName? f.1).any Operator.isValueComparison

mutual

/-- The document filter of a canonical filter; what is no map stays. -/
def compile : Value → Value
  | .map fields => .map (Fields.ofList (compileEntries fields))
  | v => v

def compileEntries : List (String × Value) → List (String × Value)
  | [] => []
  | (k, v) :: rest =>
    (match Logical.ofKey? k with
      | some g => (g.symbol, compileMembers v)
      | none => (k, compileField v)) :: compileEntries rest

/-- The members of a group; a single map is its own list. -/
def compileMembers : Value → Value
  | .list items => .list (compileItems items)
  | .map fields => .list [.map (Fields.ofList (compileEntries fields))]
  | v => v

def compileItems : List Value → List Value
  | [] => []
  | v :: rest => compile v :: compileItems rest

def compileField : Value → Value
  | .map fields => .map (Fields.ofList (nativeEntries fields))
  | .list items => .map [("$in", .list items)]
  | v => .map [("$eq", v)]

def nativeEntries : List (String × Value) → List (String × Value)
  | [] => []
  | (k, v) :: rest =>
    (nativeKey k, if nativeKey k = "$elemMatch" then compileElement v else compileOperand v) ::
      nativeEntries rest

/-- An operand stays, unless it is a map of operators itself. -/
def compileOperand : Value → Value
  | .map fields => .map (Fields.ofList (nativeEntries fields))
  | v => v

/-- The operand of `elemMatch`: operators for the element, or a filter over its fields. -/
def compileElement : Value → Value
  | .map fields =>
    if isOperatorMap fields then .map (Fields.ofList (nativeEntries fields))
    else .map (Fields.ofList (compileEntries fields))
  | v => v

end

theorem compileItems_eq_map (items : List Value) : compileItems items = items.map compile := by
  induction items with
  | nil => rfl
  | cons v rest ih => simp [compileItems, ih]

theorem compileField_eq_compileOperand (fields : Fields Value) :
    compileField (.map fields) = compileOperand (.map fields) := by
  simp [compileField, compileOperand]

theorem isNative_of_mem_nativeEntries (fields : List (String × Value)) (e : String × Value)
    (h : e ∈ nativeEntries fields) : isNative e.1 = true := by
  induction fields with
  | nil => simp [nativeEntries] at h
  | cons f rest ih =>
    rcases List.mem_cons.1 (by simpa only [nativeEntries] using h) with rfl | h
    · exact isNative_nativeKey f.1
    · exact ih h

end PagedFilter.Document
