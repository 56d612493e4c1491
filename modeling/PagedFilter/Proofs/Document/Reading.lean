import PagedFilter.Document.Compile
import PagedFilter.Document.Match

/-!
Reading filters on documents as they are written, without compiling them, and the filters that have
such a reading.
-/

namespace PagedFilter.Document

/-- Whether the operand of `elemMatch` is about the elements themselves: all its keys name operators
and one of them compares values. -/
def testsElements (fields : Fields Value) : Bool :=
  fields.all (fun e => (Operator.ofName? e.1).isSome) &&
    fields.any fun e => (Operator.ofName? e.1).any Operator.isValueComparison

/-- Whether a value, or an item of it, is a text that matches a pattern. -/
def fitsPattern (mode : Pattern.Mode) (value : Option Value) : Value → Bool
  | .str s =>
    (Pattern.read? mode s).any fun p =>
      match value with
      | some (.list items) => items.any (matchesPattern p)
      | some v => matchesPattern p v
      | none => false
  | _ => false

/-- What an operator says about the value of a field. The mode is that of the patterns beside it. -/
def passes (mode : Pattern.Mode) (value : Option Value) (op : Operator) (operand : Value) : Bool :=
  match op with
  | .eq => equals value operand
  | .ne | .neq => !equals value operand
  | .isIn => isMember value operand
  | .notIn => !isMember value operand
  | .gt => isOrdered (· == .gt) value operand
  | .gte => isOrdered (· != .lt) value operand
  | .lt => isOrdered (· == .lt) value operand
  | .lte => isOrdered (· != .gt) value operand
  | .present => value.isSome == isTruthy operand
  | .typed => hasType value operand
  | .regex => fitsPattern mode value operand
  | .options => true
  | .remainder => hasRemainder value operand
  | .all => containsAll value operand
  | .size => hasSize value operand
  | _ => false

def modeIn (operators : Fields Value) : Pattern.Mode := modeOf (Fields.find? operators "options")

mutual

/-- Whether a filter holds of a document; only maps are filters. -/
def holds (doc : Row) : Value → Bool
  | .map fields => holdsEntries doc fields
  | _ => false
termination_by structural x => x

def holdsEntries (doc : Row) : List (String × Value) → Bool
  | [] => true
  | (k, v) :: rest => holdsEntry doc k v && holdsEntries doc rest
termination_by structural x => x

/-- A group of filters, or a field with its operators, its options or its value. -/
def holdsEntry (doc : Row) (k : String) : Value → Bool
  | .list items =>
    match Logical.ofKey? k with
    | some .and => holdAll doc items
    | some .or => holdsSome doc items
    | some .nor => !holdsSome doc items
    | none => isMember (Value.lookup doc k) (.list items)
  | .map operators => meetsAll (modeIn operators) (Value.lookup doc k) operators
  | v => equals (Value.lookup doc k) v
termination_by structural x => x

def holdAll (doc : Row) : List Value → Bool
  | [] => true
  | f :: rest => holds doc f && holdAll doc rest
termination_by structural x => x

def holdsSome (doc : Row) : List Value → Bool
  | [] => false
  | f :: rest => holds doc f || holdsSome doc rest
termination_by structural x => x

/-- Whether a value meets all operators of a map. -/
def meetsAll (mode : Pattern.Mode) (value : Option Value) : List (String × Value) → Bool
  | [] => true
  | (name, operand) :: rest => meetsNamed mode value name operand && meetsAll mode value rest
termination_by structural x => x

/-- A named operator. `elemMatch` asks for an item of a list, which meets operators or is a map of
which a filter holds. Other operators are given a map with its keys in native form. -/
def meetsNamed (mode : Pattern.Mode) (value : Option Value) (name : String) : Value → Bool
  | .map operand =>
    if name = "elemMatch" then
      match value with
      | some (.list items) =>
        if testsElements operand then
          items.any fun item => meetsAll (modeIn operand) (some item) operand
        else
          items.any fun item =>
            match item with
            | .map doc => holdsEntries doc operand
            | _ => false
      | _ => false
    else (Operator.ofName? name).any (passes mode value · (compileOperand (.map operand)))
  | operand => (Operator.ofName? name).any (passes mode value · operand)
termination_by structural x => x

end

/-! ### Filters that can be read -/

/-- Operators of documents that take any operand. -/
def takesAny : Operator → Bool
  | .eq | .ne | .neq | .isIn | .notIn | .gt | .gte | .lt | .lte | .present | .typed | .options
  | .remainder | .all | .size => true
  | _ => false

/-- What a map stands for: a filter, or operators with the mode of their patterns. -/
inductive Role where
  | filter
  | operators (mode : Pattern.Mode)

/-- The native keys of operators are distinct: `ne` and `neq` share one. -/
def IsUnambiguous (operators : Fields Value) : Prop :=
  ¬("ne" ∈ Fields.names operators ∧ "neq" ∈ Fields.names operators)

instance (operators : Fields Value) : Decidable (IsUnambiguous operators) :=
  inferInstanceAs (Decidable (¬(_ ∧ _)))

/-- The name of a field: without the mark of native keys, and no group. -/
def IsFieldName (k : String) : Prop := isNative k = false ∧ Logical.ofKey? k = none

/-- Filters without native keys whose groups hold lists of such filters, and whose fields hold
values, lists or operators of documents. -/
inductive IsReadable : Role → Fields Value → Prop
  | nil {role} : IsReadable role []
  | group {k g rest} {members : List (Fields Value)} (hn : isNative k = false)
      (hk : Logical.ofKey? k = some g) (hm : ∀ m ∈ members, IsReadable .filter m)
      (hr : IsReadable .filter rest) :
      IsReadable .filter ((k, .list (members.map .map)) :: rest)
  | operated {k operators rest} (hk : IsFieldName k) (hne : operators ≠ [])
      (hu : IsUnambiguous operators) (ho : IsReadable (.operators (modeIn operators)) operators)
      (hr : IsReadable .filter rest) : IsReadable .filter ((k, .map operators) :: rest)
  | bare {k v rest} (hk : IsFieldName k) (hv : v.isMap = false) (hr : IsReadable .filter rest) :
      IsReadable .filter ((k, v) :: rest)
  | plain {mode k op operand rest} (hk : Operator.ofName? k = some op) (hop : takesAny op = true)
      (hr : IsReadable (.operators mode) rest) :
      IsReadable (.operators mode) ((k, operand) :: rest)
  | regex {mode s rest} (hp : (Pattern.read? mode s).isSome = true)
      (hr : IsReadable (.operators mode) rest) :
      IsReadable (.operators mode) (("regex", .str s) :: rest)
  | elements {mode operand rest} (he : testsElements operand = true)
      (hu : IsUnambiguous operand) (ho : IsReadable (.operators (modeIn operand)) operand)
      (hr : IsReadable (.operators mode) rest) :
      IsReadable (.operators mode) (("elemMatch", .map operand) :: rest)
  | members {mode operand rest} (he : testsElements operand = false)
      (ho : IsReadable .filter operand) (hr : IsReadable (.operators mode) rest) :
      IsReadable (.operators mode) (("elemMatch", .map operand) :: rest)
  | noElement {mode operand rest} (hv : operand.isMap = false)
      (hr : IsReadable (.operators mode) rest) :
      IsReadable (.operators mode) (("elemMatch", operand) :: rest)

theorem holdsEntries_eq_all (doc : Row) (fields : Fields Value) :
    holdsEntries doc fields = fields.all fun e => holdsEntry doc e.1 e.2 := by
  induction fields with
  | nil => rfl
  | cons e rest ih => rw [holdsEntries, ih, List.all_cons]

theorem holdsEntry_scalar {v : Value} (hl : v.isList = false) (hm : v.isMap = false) (doc : Row)
    (k : String) : holdsEntry doc k v = equals (Value.lookup doc k) v := by
  cases v with
  | list items => simp [Value.isList] at hl
  | map fields => simp [Value.isMap] at hm
  | _ => simp [holdsEntry]

theorem meetsNamed_elemMatch (mode : Pattern.Mode) (value : Option Value) (operand : Fields Value) :
    meetsNamed mode value "elemMatch" (.map operand) =
      match value with
      | some (.list items) =>
        if testsElements operand then
          items.any fun item => meetsAll (modeIn operand) (some item) operand
        else
          items.any fun item =>
            match item with
            | .map doc => holdsEntries doc operand
            | _ => false
      | _ => false := by
  cases value with
  | none => simp [meetsNamed]
  | some v => cases v <;> simp [meetsNamed]

theorem meetsAll_eq_all (mode : Pattern.Mode) (value : Option Value) (operators : Fields Value) :
    meetsAll mode value operators = operators.all fun e => meetsNamed mode value e.1 e.2 := by
  induction operators with
  | nil => rfl
  | cons e rest ih => rw [meetsAll, ih, List.all_cons]

theorem holdAll_map (doc : Row) (members : List (Fields Value)) :
    holdAll doc (members.map .map) = members.all (holdsEntries doc) := by
  induction members with
  | nil => rfl
  | cons m rest ih => rw [List.map_cons, holdAll, holds, ih, List.all_cons]

theorem holdsSome_map (doc : Row) (members : List (Fields Value)) :
    holdsSome doc (members.map .map) = members.any (holdsEntries doc) := by
  induction members with
  | nil => rfl
  | cons m rest ih => rw [List.map_cons, holdsSome, holds, ih, List.any_cons]

end PagedFilter.Document
