import PagedFilter.Document.Condition
import PagedFilter.Value.Path

/-!
Evaluating document filters. The clauses of a filter are tested in the order of their keys up to the
first that fails; a clause the store cannot evaluate is an error only if it is reached.
-/

namespace PagedFilter.Document

/-- The keys of groups, whose maps are no operators. -/
def isGroupKey (key : String) : Bool := key == "$and" || key == "$or" || key == "$nor"

/-- Whether a map holds operators: all keys carry the mark and none is a group. -/
def holdsOperators (fields : Fields Value) : Bool :=
  !fields.isEmpty && fields.all fun f => isNative f.1 && !isGroupKey f.1

mutual

def accepts (doc : Row) : Value → Except StoreError Bool
  | .map clauses => acceptsClauses doc clauses
  | other => .error (.unsupported (.filterOfType other.typeName))
termination_by structural x => x

def acceptsClauses (doc : Row) : List (String × Value) → Except StoreError Bool
  | [] => .ok true
  | (key, condition) :: rest => do
    let hit ← acceptsClause doc key condition
    if hit then acceptsClauses doc rest else .ok false
termination_by structural x => x

/-- One clause: a group of filters or a condition on a field. -/
def acceptsClause (doc : Row) (key : String) : Value → Except StoreError Bool
  | .list members =>
    if key = "$and" then acceptsAll doc members
    else if key = "$or" then acceptsAny doc members
    else if key = "$nor" then do
      let hit ← acceptsAny doc members
      .ok (!hit)
    else if isNative key then .error (.unsupported (.key key))
    else .ok (equals (Value.lookup doc key) (.list members))
  | .map condition =>
    if isGroupKey key then .error (.unsupported (.groupWithoutList key))
    else if isNative key then .error (.unsupported (.key key))
    else if holdsOperators condition then
      acceptsOperators (Fields.find? condition "$options") (Value.lookup doc key) condition
    else .ok (equals (Value.lookup doc key) (.map condition))
  | operand =>
    if isGroupKey key then .error (.unsupported (.groupWithoutList key))
    else if isNative key then .error (.unsupported (.key key))
    else .ok (equals (Value.lookup doc key) operand)
termination_by structural x => x

def acceptsAll (doc : Row) : List Value → Except StoreError Bool
  | [] => .ok true
  | f :: rest => do
    let hit ← accepts doc f
    if hit then acceptsAll doc rest else .ok false
termination_by structural x => x

def acceptsAny (doc : Row) : List Value → Except StoreError Bool
  | [] => .ok false
  | f :: rest => do
    let hit ← accepts doc f
    if hit then .ok true else acceptsAny doc rest
termination_by structural x => x

/-- Whether a value meets every operator of a map; `options` belongs to the map's pattern. -/
def acceptsOperators (options : Option Value) (value : Option Value) :
    List (String × Value) → Except StoreError Bool
  | [] => .ok true
  | (op, operand) :: rest => do
    let hit ← acceptsOperator options value op operand
    if hit then acceptsOperators options value rest else .ok false
termination_by structural x => x

/-- One operator. The operand of `$elemMatch` is a map of operators for some item of a list, or a
filter that some item satisfies as a document. -/
def acceptsOperator (options : Option Value) (value : Option Value) (op : String) :
    Value → Except StoreError Bool
  | .map condition =>
    if op = "$elemMatch" then
      match value with
      | some (.list items) =>
        if holdsOperators condition then
          anyUntil (fun item =>
            acceptsOperators (Fields.find? condition "$options") (some item) condition) items
        else
          anyUntil (fun item =>
            match item with
            | .map doc => acceptsClauses doc condition
            | _ => .ok false) items
      | _ => .ok false
    else meets options value op (.map condition)
  | operand => if op = "$elemMatch" then .ok false else meets options value op operand
termination_by structural x => x

end

theorem accepts_emptyMap (doc : Row) : accepts doc Value.emptyMap = .ok true := by
  simp [Value.emptyMap, accepts, acceptsClauses]

end PagedFilter.Document
