import PagedFilter.Text.Segments
import PagedFilter.Value.Basic

/-!
Paths into nested maps: names with points between them, one name for each level.
-/

namespace PagedFilter.Value

/-- Follows a list of names. -/
def follow : Value → List (List Char) → Option Value
  | v, [] => some v
  | map fields, name :: rest => (Fields.find? fields (String.ofList name)).bind (follow · rest)
  | _, _ :: _ => none

/-- The value under a dotted path; the path without any name leads through the empty name. -/
def path? (v : Value) (path : String) : Option Value :=
  follow v (Text.segments '.' path.toList)

/-- The value of a field: under the literal name if there is one, else under the name before the
first point and along the path after it. -/
def lookup (fields : Fields Value) (path : String) : Option Value :=
  match Fields.find? fields path with
  | some v => some v
  | none =>
    match Text.divide? '.' path.toList with
    | some (head, rest) =>
      (Fields.find? fields (String.ofList head)).bind (path? · (String.ofList rest))
    | none => none

theorem path?_of_not_mem (fields : Fields Value) (name : String) (h : '.' ∉ name.toList) :
    path? (map fields) name = Fields.find? fields name := by
  simp only [path?, Text.segments_of_not_mem _ _ h, follow, String.ofList_toList]
  cases Fields.find? fields name <;> simp

theorem lookup_of_not_mem (fields : Fields Value) (name : String) (h : '.' ∉ name.toList) :
    lookup fields name = Fields.find? fields name := by
  unfold lookup
  rw [(Text.divide?_eq_none_iff _ _).2 h]
  cases Fields.find? fields name <;> rfl

end PagedFilter.Value
