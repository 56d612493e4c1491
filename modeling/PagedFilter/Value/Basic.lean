import PagedFilter.Calendar.Instant
import PagedFilter.Double.Rounding
import PagedFilter.Fields

/-!
Values: what filters are made of and what rows and documents hold. Maps keep their fields in the
order of their names.
-/

namespace PagedFilter

inductive Value where
  | null
  | bool (b : Bool)
  | int (n : Int64)
  | float (x : Double)
  | str (s : String)
  | date (t : Instant)
  | list (items : List Value)
  | map (fields : List (String × Value))
  deriving Inhabited, Repr

namespace Value

/-- The map without fields, which as a filter accepts everything. -/
def emptyMap : Value := map []

def isNull : Value → Bool
  | null => true
  | _ => false

def isList : Value → Bool
  | list _ => true
  | _ => false

def isMap : Value → Bool
  | map _ => true
  | _ => false

def str? : Value → Option String
  | str s => some s
  | _ => none

def list? : Value → Option (List Value)
  | list items => some items
  | _ => none

def map? : Value → Option (Fields Value)
  | map fields => some fields
  | _ => none

/-- The integer nearest to `n` within 64 bits. -/
def clampInt (n : Int) : Int64 := Int64.ofInt (max (-2 ^ 63) (min (2 ^ 63 - 1) n))

/-- An integer, or a double without a fraction, clamped to 64 bits. -/
def int? : Value → Option Int64
  | int n => some n
  | float x => if x.isIntegral then some (clampInt x.truncate) else none
  | _ => none

def double? : Value → Option Double
  | int n => some (Double.ofInt n.toInt)
  | float x => some x
  | _ => none

def typeName : Value → String
  | null => "null"
  | bool _ => "bool"
  | int _ => "int"
  | float _ => "double"
  | str _ => "string"
  | date _ => "date"
  | list _ => "array"
  | map _ => "object"

/-- Kinds of values; only values of one kind compare by content. -/
inductive Kind where
  | null | bool | number | text | date | list | map
  deriving DecidableEq, Repr

/-- Kinds in increasing order. -/
def Kind.rank : Kind → Nat
  | null => 0
  | bool => 1
  | number => 2
  | text => 3
  | date => 4
  | list => 5
  | map => 6

/-- Integers and doubles are of one kind. -/
def kind : Value → Kind
  | null => .null
  | bool _ => .bool
  | int _ => .number
  | float _ => .number
  | str _ => .text
  | date _ => .date
  | list _ => .list
  | map _ => .map

def sameKind (a b : Value) : Bool := decide (a.kind = b.kind)

theorem Kind.rank_injective {a b : Kind} (h : a.rank = b.rank) : a = b := by
  cases a <;> cases b <;> first | rfl | simp [rank] at h

theorem sameKind_self (a : Value) : a.sameKind a = true := by simp [sameKind]

theorem sameKind_comm (a b : Value) : a.sameKind b = b.sameKind a := by
  simp [sameKind, eq_comm]

mutual

/-- The names of every map within are in order. -/
def WellFormed : Value → Prop
  | list items => WellFormedList items
  | map fields => Fields.Sorted fields ∧ WellFormedFields fields
  | _ => True

def WellFormedList : List Value → Prop
  | [] => True
  | v :: rest => WellFormed v ∧ WellFormedList rest

def WellFormedFields : List (String × Value) → Prop
  | [] => True
  | (_, v) :: rest => WellFormed v ∧ WellFormedFields rest

end

theorem wellFormedList_iff (items : List Value) :
    WellFormedList items ↔ ∀ v ∈ items, WellFormed v := by
  induction items with
  | nil => simp [WellFormedList]
  | cons v rest ih => simp [WellFormedList, ih]

theorem wellFormedFields_iff (fields : List (String × Value)) :
    WellFormedFields fields ↔ ∀ e ∈ fields, WellFormed e.2 := by
  induction fields with
  | nil => simp [WellFormedFields]
  | cons e rest ih => simp [WellFormedFields, ih]

end Value

end PagedFilter
