import PagedFilter.Text.Blank
import PagedFilter.Text.Quoted

/-!
The words of the filter language and of its two backends: operators on fields, groups of filters,
comparisons, connectives, and the directions of sorting and paging. Each word has the name that
filters use and the label that stands for it in JSON.
-/

namespace PagedFilter

/-- Operators that a filter applies to a field. -/
inductive Operator where
  | eq | ne | neq | isIn | notIn | gt | gte | lt | lte | like | ilike | isNull | isNotNull
  | present | typed | regex | options | remainder | text | all | size | elemMatch
  deriving DecidableEq, Repr

namespace Operator

def values : List Operator :=
  [eq, ne, neq, isIn, notIn, gt, gte, lt, lte, like, ilike, isNull, isNotNull, present, typed, regex,
    options, remainder, text, all, size, elemMatch]

def name : Operator → String
  | eq => "eq"
  | ne => "ne"
  | neq => "neq"
  | isIn => "in"
  | notIn => "nin"
  | gt => "gt"
  | gte => "gte"
  | lt => "lt"
  | lte => "lte"
  | like => "like"
  | ilike => "ilike"
  | isNull => "isNull"
  | isNotNull => "isNotNull"
  | present => "exists"
  | typed => "type"
  | regex => "regex"
  | options => "options"
  | remainder => "mod"
  | text => "text"
  | all => "all"
  | size => "size"
  | elemMatch => "elemMatch"

def label : Operator → String
  | eq => "Eq"
  | ne => "Ne"
  | neq => "Neq"
  | isIn => "In"
  | notIn => "Nin"
  | gt => "Gt"
  | gte => "Gte"
  | lt => "Lt"
  | lte => "Lte"
  | like => "Like"
  | ilike => "ILike"
  | isNull => "IsNull"
  | isNotNull => "IsNotNull"
  | present => "Exists"
  | typed => "Type"
  | regex => "Regex"
  | options => "Options"
  | remainder => "Mod"
  | text => "Text"
  | all => "All"
  | size => "Size"
  | elemMatch => "ElemMatch"

def ofName? (name : String) : Option Operator := values.find? (·.name == name)

/-- Operators that test a value rather than its shape. -/
def isValueComparison : Operator → Bool
  | eq | ne | neq | isIn | notIn | gt | gte | lt | lte | like | ilike | regex | remainder => true
  | _ => false

/-- Operators whose operand is a list in a canonical filter. -/
def takesList : Operator → Bool
  | isIn | notIn => true
  | _ => false

/-- The key of the operator in a document filter; none for those of tables alone. -/
def symbol? : Operator → Option String
  | eq => some "$eq"
  | ne => some "$ne"
  | neq => some "$ne"
  | isIn => some "$in"
  | notIn => some "$nin"
  | gt => some "$gt"
  | gte => some "$gte"
  | lt => some "$lt"
  | lte => some "$lte"
  | present => some "$exists"
  | typed => some "$type"
  | regex => some "$regex"
  | options => some "$options"
  | remainder => some "$mod"
  | text => some "$text"
  | all => some "$all"
  | size => some "$size"
  | elemMatch => some "$elemMatch"
  | like | ilike | isNull | isNotNull => none

theorem mem_values (op : Operator) : op ∈ values := by cases op <;> decide

theorem ofName?_name (op : Operator) : ofName? op.name = some op := by cases op <;> decide

theorem name_of_ofName? {name : String} {op : Operator} (h : ofName? name = some op) :
    op.name = name := by
  have := List.find?_some h
  simpa using this

end Operator

/-- Keys that group filters. -/
inductive Logical where
  | and | or | nor
  deriving DecidableEq, Repr

namespace Logical

def values : List Logical := [and, or, nor]

def name : Logical → String
  | and => "and"
  | or => "or"
  | nor => "nor"

def label : Logical → String
  | and => "And"
  | or => "Or"
  | nor => "Nor"

def symbol : Logical → String
  | and => "$and"
  | or => "$or"
  | nor => "$nor"

/-- The group that a key stands for, with or without the mark of document filters. -/
def ofKey? (key : String) : Option Logical :=
  match key with
  | "and" => some and
  | "or" => some or
  | "nor" => some nor
  | "$and" => some and
  | "$or" => some or
  | "$nor" => some nor
  | _ => none

/-- Groups whose members are a list in a canonical filter. -/
def takesList : Logical → Bool
  | nor => false
  | _ => true

theorem ofKey?_name (g : Logical) : ofKey? g.name = some g := by cases g <;> rfl

theorem ofKey?_symbol (g : Logical) : ofKey? g.symbol = some g := by cases g <;> rfl

end Logical

/-- Keys whose value is a list in a canonical filter. -/
def requiresList (key : String) : Bool :=
  match Operator.ofName? key with
  | some op => op.takesList
  | none => key == "and" || key == "or"

/-- Whether a key carries the mark of document filters. -/
def isNative (key : String) : Bool := key.toList.head? == some '$'

/-- The key of an operator in a document filter. Names without a symbol get the mark in front. -/
def nativeKey (key : String) : String :=
  if isNative key then key
  else ((Operator.ofName? key).bind Operator.symbol?).getD (String.ofList ('$' :: key.toList))

theorem nativeKey_of_isNative {key : String} (h : isNative key = true) : nativeKey key = key := by
  simp [nativeKey, h]

theorem isNative_symbol (op : Operator) (s : String) (h : op.symbol? = some s) :
    isNative s = true := by
  cases op <;> simp [Operator.symbol?] at h <;> subst h <;> decide

theorem isNative_nativeKey (key : String) : isNative (nativeKey key) = true := by
  unfold nativeKey
  split
  · assumption
  · cases h : (Operator.ofName? key).bind Operator.symbol? with
    | none => simp [isNative]
    | some s =>
      obtain ⟨op, _, hs⟩ := Option.bind_eq_some_iff.1 h
      simpa using isNative_symbol op s hs

theorem nativeKey_nativeKey (key : String) : nativeKey (nativeKey key) = nativeKey key :=
  nativeKey_of_isNative (isNative_nativeKey key)

/-- Comparisons of a column with an operand. -/
inductive Comparison where
  | eq | ne | gt | gte | lt | lte | like | ilike
  deriving DecidableEq, Repr

namespace Comparison

def values : List Comparison := [eq, ne, gt, gte, lt, lte, like, ilike]

def symbol : Comparison → String
  | eq => "="
  | ne => "<>"
  | gt => ">"
  | gte => ">="
  | lt => "<"
  | lte => "<="
  | like => "like"
  | ilike => "ilike"

def label : Comparison → String
  | eq => "Eq"
  | ne => "Ne"
  | gt => "Gt"
  | gte => "Gte"
  | lt => "Lt"
  | lte => "Lte"
  | like => "Like"
  | ilike => "ILike"

end Comparison

/-- How a predicate joins those before it. -/
inductive Connective where
  | and | or
  deriving DecidableEq, Repr

namespace Connective

def values : List Connective := [and, or]

def keyword : Connective → String
  | and => "and"
  | or => "or"

def label : Connective → String
  | and => "And"
  | or => "Or"

end Connective

inductive Direction where
  | asc | desc
  deriving DecidableEq, Inhabited, Repr

namespace Direction

def values : List Direction := [asc, desc]

def keyword : Direction → String
  | asc => "asc"
  | desc => "desc"

def reversed : Direction → Direction
  | asc => desc
  | desc => asc

def lowerAscii (cs : List Char) : List Char := cs.map Char.toLower

/-- Reads a direction in any case between blanks; what is no direction is given back without blanks
and in small letters. -/
def ofText (s : String) : Except String Direction :=
  let word := String.ofList (lowerAscii (Text.trim s.toList))
  if word = "asc" then .ok asc
  else if word = "desc" then .ok desc
  else .error word

def unknownMessage (word : String) : String :=
  "Invalid value: unknown sort direction " ++ Text.quoted word

theorem reversed_reversed (d : Direction) : d.reversed.reversed = d := by cases d <;> rfl

theorem ofText_keyword (d : Direction) : ofText d.keyword = .ok d := by cases d <;> rfl

end Direction

/-- Which way a cursor moves through the pages. -/
inductive Towards where
  | next | previous
  deriving DecidableEq, Inhabited, Repr

namespace Towards

def values : List Towards := [next, previous]

def label : Towards → String
  | next => "next"
  | previous => "previous"

end Towards

end PagedFilter
