import PagedFilter.StableSort
import PagedFilter.Value.Equality
import PagedFilter.Vocabulary

/-!
Canonical filters. Decoders of query strings write a list as a map from decimal indices, and leave a
single member of a list bare. Normalizing turns such maps into lists in the order of their indices and
puts bare values under list keys into lists of one, at every depth.
-/

namespace PagedFilter.Filter

/-- A name of ASCII digits, at least one. -/
def isIndex (name : String) : Bool :=
  !name.toList.isEmpty && name.toList.all Char.isDigit

/-- Whether a map stands for a list: it is not empty and all names are indices. -/
def isIndexKeyed (fields : Fields Value) : Bool :=
  !fields.isEmpty && fields.all fun f => isIndex f.1

/-- The digits of an index from the first that is not zero. -/
def significant (name : String) : List Char := name.toList.dropWhile (· == '0')

/-- Numeric order of indices of any length: without zeros in front, the longer one is greater, and of
two with one length the one with the greater text. Names of one number compare by their text. -/
def compareIndices (a b : String) : Ordering :=
  (compare (significant a).length (significant b).length).then
    ((compare (String.ofList (significant a)) (String.ofList (significant b))).then (compare a b))

def inIndexOrder (fields : Fields Value) : List Value :=
  (StableSort.sort (fun a b => compareIndices a.1 b.1) fields).map (·.2)

/-- Puts a bare value under a list key into a list. -/
def listUnder (key : String) (v : Value) : Value :=
  if requiresList key && !v.isList then .list [v] else v

/-- The canonical map or list of fields whose values are canonical. -/
def assemble (fields : Fields Value) : Value :=
  if isIndexKeyed fields then .list (inIndexOrder fields)
  else .map (fields.map fun f => (f.1, listUnder f.1 f.2))

mutual

def normalize : Value → Value
  | .list items => .list (normalizeItems items)
  | .map fields => assemble (normalizeFields fields)
  | v => v

def normalizeItems : List Value → List Value
  | [] => []
  | v :: rest => normalize v :: normalizeItems rest

def normalizeFields : List (String × Value) → List (String × Value)
  | [] => []
  | (k, v) :: rest => (k, normalize v) :: normalizeFields rest

end

mutual

/-- At every depth, what stands under a list key is a list and no map stands for a list. -/
def IsCanonical : Value → Prop
  | .list items => IsCanonicalItems items
  | .map fields => isIndexKeyed fields = false ∧ IsCanonicalFields fields
  | _ => True

def IsCanonicalItems : List Value → Prop
  | [] => True
  | v :: rest => IsCanonical v ∧ IsCanonicalItems rest

def IsCanonicalFields : List (String × Value) → Prop
  | [] => True
  | (k, v) :: rest =>
    (requiresList k = true → v.isList = true) ∧ IsCanonical v ∧ IsCanonicalFields rest

end

theorem normalizeItems_eq_map (items : List Value) : normalizeItems items = items.map normalize := by
  induction items with
  | nil => rfl
  | cons v rest ih => simp [normalizeItems, ih]

theorem normalizeFields_eq_map (fields : List (String × Value)) :
    normalizeFields fields = fields.map fun f => (f.1, normalize f.2) := by
  induction fields with
  | nil => rfl
  | cons f rest ih => simp [normalizeFields, ih]

theorem listUnder_of_not_requiresList {key : String} (h : requiresList key = false) (v : Value) :
    listUnder key v = v := by simp [listUnder, h]

theorem isList_listUnder {key : String} (h : requiresList key = true) (v : Value) :
    (listUnder key v).isList = true := by
  cases hv : v.isList with
  | false =>
    simp only [listUnder, h, hv, Bool.not_false, Bool.and_self, if_true]
    rfl
  | true => simp [listUnder, hv]

example : compareIndices "10" "2" = .gt := by decide +kernel

example : compareIndices "0" "00" = .lt := by decide +kernel

end PagedFilter.Filter
