import PagedFilter.Pattern.Reader
import PagedFilter.Store

/-!
Conditions on the value of a field, as operators of document filters state them. A missing field
equals null, and a list meets a condition on a single value when one of its items does.
-/

namespace PagedFilter.Document

def equals : Option Value → Value → Bool
  | none, operand => operand.isNull
  | some .null, operand => operand.isNull
  | some (.list items), operand =>
    if operand.isList then (Value.list items).looseEq operand else items.any (·.looseEq operand)
  | some v, operand => v.looseEq operand

def isMember (value : Option Value) : Value → Bool
  | .list options => options.any (equals value)
  | single => equals value single

/-- Whether a value is of the operand's kind and compares as wanted. -/
def comparesAs (wanted : Ordering → Bool) (operand v : Value) : Bool :=
  !v.isNull && v.sameKind operand && wanted (v.compare operand)

/-- A range condition on a field's value. -/
def isOrdered (wanted : Ordering → Bool) (value : Option Value) (operand : Value) : Bool :=
  match value with
  | some (.list items) =>
    if operand.isList then comparesAs wanted operand (.list items)
    else items.any (comparesAs wanted operand)
  | some v => comparesAs wanted operand v
  | none => false

/-- Whether an operand asks for a field to be there. -/
def isTruthy : Value → Bool
  | .null => false
  | .bool b => b
  | .int n => decide (n ≠ 0)
  | .str s => !(s == "false" || s == "0" || s == "")
  | _ => true

/-- Whether a value is of a named type; `number` names both kinds of numbers. -/
def isOfType (v : Value) (name : Value) : Bool :=
  match name with
  | .str "number" => decide (v.kind = .number)
  | .str s => v.typeName == s
  | _ => false

def hasType (value : Option Value) (operand : Value) : Bool :=
  match value with
  | none => false
  | some v =>
    match operand with
    | .list names => names.any (isOfType v)
    | name => isOfType v name

def modeOf (options : Option Value) : Pattern.Mode :=
  let letters := ((options.bind Value.str?).getD "").toList
  ⟨letters.contains 'i', letters.contains 'm', letters.contains 's', letters.contains 'x'⟩

def matchesPattern (p : Pattern) : Value → Bool
  | .str s => p.isMatch s
  | _ => false

/-- Whether a field's value, or an item of it, matches a pattern read with options. -/
def matchesRegex (value : Option Value) (operand : Value) (options : Option Value) :
    Except StoreError Bool :=
  match operand with
  | .str s =>
    match Pattern.read? (modeOf options) s with
    | none => .error (.invalidPattern s)
    | some p =>
      .ok (match value with
        | some (.list items) => items.any (matchesPattern p)
        | some v => matchesPattern p v
        | none => false)
  | _ => .error (.unsupported .patternType)

def hasSize (value : Option Value) (operand : Value) : Bool :=
  match value, operand.int? with
  | some (.list items), some n => decide (n.toInt = items.length)
  | _, _ => false

def containsAll (value : Option Value) (operand : Value) : Bool :=
  match operand with
  | .list wanted => !wanted.isEmpty && wanted.all (equals value)
  | _ => false

/-- The remainder of a division that rounds toward zero; none by zero, and none where the quotient
leaves 64 bits. -/
def remainder? (a b : Int64) : Option Int64 :=
  if b = 0 then none
  else if a = Int64.minValue ∧ b = -1 then none
  else some (a % b)

def hasRemainder (value : Option Value) (operand : Value) : Bool :=
  match value.bind Value.int?, operand with
  | some v, .list [divisor, rest] =>
    match divisor.int?, rest.int? with
    | some d, some r => remainder? v d == some r
    | _, _ => false
  | _, _ => false

/-- Whether a field's value meets an operator that does not look into items; `options` belongs to the
pattern of the same map. -/
def meets (options : Option Value) (value : Option Value) (op : String) (operand : Value) :
    Except StoreError Bool :=
  match op with
  | "$eq" => .ok (equals value operand)
  | "$ne" => .ok (!equals value operand)
  | "$in" => .ok (isMember value operand)
  | "$nin" => .ok (!isMember value operand)
  | "$gt" => .ok (isOrdered (· == .gt) value operand)
  | "$gte" => .ok (isOrdered (· != .lt) value operand)
  | "$lt" => .ok (isOrdered (· == .lt) value operand)
  | "$lte" => .ok (isOrdered (· != .gt) value operand)
  | "$exists" => .ok (value.isSome == isTruthy operand)
  | "$type" => .ok (hasType value operand)
  | "$regex" => matchesRegex value operand options
  | "$options" => .ok true
  | "$size" => .ok (hasSize value operand)
  | "$all" => .ok (containsAll value operand)
  | "$mod" => .ok (hasRemainder value operand)
  | other => .error (.unsupported (.key other))

theorem equals_none (operand : Value) : equals none operand = operand.isNull := rfl

theorem isMember_singleton (value : Option Value) (v : Value) :
    isMember value (.list [v]) = equals value v := by simp [isMember]

end PagedFilter.Document
