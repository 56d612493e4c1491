import PagedFilter.Pattern.Like
import PagedFilter.Store
import PagedFilter.Table.Clause
import PagedFilter.Table.Truth
import PagedFilter.Text.Segments

/-!
Evaluating clauses on a row. Comparisons with null, with a missing cell and between values of
different kinds are unknown. In a list of clauses `and` binds tighter than `or`: the list is an
alternative of runs, and a clause joined by `or` starts a new run. A `like` operand that is too large
for a pattern is a fault where it meets a text.
-/

namespace PagedFilter.Table

/-- A row's cell under a column: under the whole name if the row has it, else under what follows the
first point. -/
def resolve (row : Row) (column : String) : Option Value :=
  match Fields.find? row column with
  | some v => some v
  | none =>
    (Text.divide? '.' column.toList).bind fun p => Fields.find? row (String.ofList p.2)

def isNullCell : Option Value → Bool
  | none => true
  | some v => v.isNull

/-- Whether two values compare as a comparison asks. Patterns are no matter of order. -/
def admits : Comparison → Ordering → Bool
  | .eq, o => o == .eq
  | .ne, o => o != .eq
  | .gt, o => o == .gt
  | .gte, o => o != .lt
  | .lt, o => o == .lt
  | .lte, o => o != .gt
  | .like, _ => false
  | .ilike, _ => false

/-- A text compared with a `like` operand; unknown unless both are strings. -/
def likeTruth (ignoreCase : Bool) : Value → Value → Truth
  | .str text, .str operand => some ((Like.pattern operand ignoreCase).isMatch text)
  | _, _ => none

/-- Two values, neither of them null, under a comparison. -/
def compareValues (c : Comparison) (v operand : Value) : Truth :=
  match c with
  | .like => likeTruth false v operand
  | .ilike => likeTruth true v operand
  | c => if v.sameKind operand then some (admits c (v.compare operand)) else none

def compareCell (c : Comparison) (operand : Value) : Option Value → Truth
  | none => none
  | some v => if v.isNull || operand.isNull then none else compareValues c v operand

/-- Whether a cell is among values. Nothing is among none; otherwise a null cell is unknown, and so
is a miss among values of which one is null. -/
def membership (values : List Value) (cell : Option Value) : Truth :=
  if values.isEmpty then some false
  else
    match cell with
    | none => none
    | some v =>
      if v.isNull then none
      else if values.any (v.looseEq ·) then some true
      else if values.any (·.isNull) then none
      else some false

mutual

def Clause.truth (row : Row) : Clause → Truth
  | .compare column c operand => compareCell c operand (resolve row column)
  | .isIn column values => membership values (resolve row column)
  | .notIn column values => (membership values (resolve row column)).not
  | .isNull column => some (isNullCell (resolve row column))
  | .isNotNull column => some (!isNullCell (resolve row column))
  | .never => some false
  | .group _ clauses => Clause.truthOfList row clauses

/-- The truth of a list of clauses; an empty list is true. -/
def Clause.truthOfList (row : Row) : List Clause → Truth
  | [] => some true
  | c :: rest => Clause.truthFrom row (some false) (c.truth row) rest

/-- Goes on with clauses after the runs `passed` and the present run. -/
def Clause.truthFrom (row : Row) (passed present : Truth) : List Clause → Truth
  | [] => passed.or present
  | c :: rest =>
    match c.connective with
    | .or => Clause.truthFrom row (passed.or present) (c.truth row) rest
    | .and => Clause.truthFrom row passed (present.and (c.truth row)) rest

end

/-- The operand of a comparison that meets a text and is too large for a pattern. -/
def oversized? (c : Comparison) : Value → Option Value → Option String
  | .str operand, some (.str _) =>
    match c with
    | .like => if Like.fits operand false then none else some operand
    | .ilike => if Like.fits operand true then none else some operand
    | _ => none
  | _, _ => none

mutual

/-- The first operand in a clause that is a fault on a row. -/
def Clause.fault? (row : Row) : Clause → Option String
  | .compare column c operand => oversized? c operand (resolve row column)
  | .group _ clauses => Clause.faultOfList? row clauses
  | _ => none

def Clause.faultOfList? (row : Row) : List Clause → Option String
  | [] => none
  | c :: rest => c.fault? row <|> Clause.faultOfList? row rest

end

/-- Whether a list of clauses selects a row: only what is true does. -/
def selects (clauses : List Clause) (row : Row) : Bool :=
  Clause.truthOfList row clauses == some true

theorem truthOfList_nil (row : Row) : Clause.truthOfList row [] = some true := by
  simp [Clause.truthOfList]

theorem truthOfList_singleton (row : Row) (c : Clause) :
    Clause.truthOfList row [c] = c.truth row := by
  simp [Clause.truthOfList, Clause.truthFrom, Truth.false_or]

/-- A clause that joins by `and` narrows the run before it. -/
theorem truthFrom_and (row : Row) (passed present : Truth) (c : Clause) (rest : List Clause)
    (h : c.connective = .and) : Clause.truthFrom row passed present (c :: rest) =
      Clause.truthFrom row passed (present.and (c.truth row)) rest := by
  simp [Clause.truthFrom, h]

theorem resolve_of_find? {row : Row} {column : String} {v : Value}
    (h : Fields.find? row column = some v) : resolve row column = some v := by
  simp [resolve, h]

theorem faultOfList?_append (row : Row) (as bs : List Clause) :
    Clause.faultOfList? row (as ++ bs) =
      (Clause.faultOfList? row as <|> Clause.faultOfList? row bs) := by
  induction as with
  | nil => simp [Clause.faultOfList?]
  | cons c rest ih =>
    simp only [List.cons_append, Clause.faultOfList?, ih]
    cases c.fault? row <;> rfl

theorem membership_nil (cell : Option Value) : membership [] cell = some false := rfl

end PagedFilter.Table
