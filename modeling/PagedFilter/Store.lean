import PagedFilter.Text.Quoted
import PagedFilter.Value.Order
import PagedFilter.Vocabulary

/-!
What stores of rows have in common: rows, the reasons for which a query fails, comparing rows by
several keys, and the window of a result.
-/

namespace PagedFilter

/-- A row of a table or a document of a collection. -/
abbrev Row := Fields Value

inductive Unsupported where
  /-- A filter that is no map, by the name of its type. -/
  | filterOfType (typeName : String)
  /-- A group whose members are no list. -/
  | groupWithoutList (key : String)
  | key (key : String)
  | patternType
  deriving DecidableEq, Repr

def Unsupported.text : Unsupported → String
  | filterOfType name => "filter of type " ++ name
  | groupWithoutList k => k ++ " expects a sequence"
  | key k => k
  | patternType => "$regex expects a string pattern"

inductive StoreError where
  | unsupported (cause : Unsupported)
  | invalidPattern (pattern : String)
  | backend (reason : String)
  deriving DecidableEq, Repr

def StoreError.message : StoreError → String
  | unsupported cause => "unsupported operator: " ++ cause.text
  | invalidPattern pattern => "invalid pattern " ++ Text.quoted pattern ++ ":"
  | backend reason => "backend error: " ++ reason

/-- A field to sort by and its direction. -/
abbrev SortKey := String × Direction

def Direction.compare (d : Direction) (a b : Value) : Ordering :=
  match d with
  | .asc => a.compare b
  | .desc => b.compare a

/-- Compares two rows by the first key that tells them apart. `cell` finds a row's value under a
field; a missing one counts as null. -/
def compareRows (cell : Row → String → Option Value) : List SortKey → Row → Row → Ordering
  | [], _, _ => .eq
  | (field, d) :: rest, a, b =>
    (d.compare ((cell a field).getD .null) ((cell b field).getD .null)).then
      (compareRows cell rest a b)

/-- Skips elements and takes at most `limit` of the rest. -/
def window {α : Type} (skip : Nat) (limit : Option Nat) (xs : List α) : List α :=
  match limit with
  | some n => (xs.drop skip).take n
  | none => xs.drop skip

/-- The elements that a test accepts, tested in order; the first failure ends it. -/
def filterUntilError {α ε : Type} (accepts : α → Except ε Bool) : List α → Except ε (List α)
  | [] => .ok []
  | x :: rest => do
    let hit ← accepts x
    let found ← filterUntilError accepts rest
    .ok (if hit then x :: found else found)

/-- Whether some element is accepted; later elements are not tested. -/
def anyUntil {α ε : Type} (accepts : α → Except ε Bool) : List α → Except ε Bool
  | [] => .ok false
  | x :: rest => do
    let hit ← accepts x
    if hit then .ok true else anyUntil accepts rest

theorem compareRows_self (cell : Row → String → Option Value) (keys : List SortKey) (r : Row) :
    compareRows cell keys r r = .eq := by
  induction keys with
  | nil => rfl
  | cons k rest ih =>
    obtain ⟨field, d⟩ := k
    cases d <;> simp [compareRows, Direction.compare, Value.compare_self, ih, Ordering.then]

theorem Direction.compare_reversed (d : Direction) (a b : Value) :
    d.reversed.compare a b = d.compare b a := by cases d <;> rfl

theorem filterUntilError_of_tests {α ε : Type} {accepts : α → Except ε Bool} {test : α → Bool}
    {xs : List α} (h : ∀ x ∈ xs, accepts x = .ok (test x)) :
    filterUntilError accepts xs = .ok (xs.filter test) := by
  induction xs with
  | nil => rfl
  | cons x rest ih =>
    rw [filterUntilError, h x List.mem_cons_self, ih fun y hy => h y (List.mem_cons_of_mem _ hy),
      List.filter_cons]
    rfl

end PagedFilter
