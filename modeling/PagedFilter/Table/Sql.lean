import PagedFilter.Store
import PagedFilter.Table.Clause
import PagedFilter.Text.Segments

/-!
The SQL of clauses. Identifiers are quoted segment by segment; operands appear as placeholders and are
bound in the order of their placeholders.
-/

namespace PagedFilter.Table.Sql

/-- Doubles the quotes of a segment and puts quotes around it. -/
def quoteSegment (cs : List Char) : List Char :=
  '"' :: cs.flatMap (fun c => if c = '"' then ['"', '"'] else [c]) ++ ['"']

def quoteName (name : String) : String :=
  String.ofList (Text.joinSegments '.' ((Text.segments '.' name.toList).map quoteSegment))

def commaJoin : List String → String
  | [] => ""
  | [s] => s
  | s :: t :: rest => s ++ ", " ++ commaJoin (t :: rest)

def placeholders (values : List Value) : String := commaJoin (values.map fun _ => "?")

mutual

/-- The text of a clause. Membership among no values is a constant. -/
def text : Clause → String
  | .compare column c _ => quoteName column ++ " " ++ c.symbol ++ " ?"
  | .isIn column values =>
    if values.isEmpty then "1 = 0"
    else quoteName column ++ " in (" ++ placeholders values ++ ")"
  | .notIn column values =>
    if values.isEmpty then "1 = 1"
    else quoteName column ++ " not in (" ++ placeholders values ++ ")"
  | .isNull column => quoteName column ++ " is null"
  | .isNotNull column => quoteName column ++ " is not null"
  | .never => "1 = 0"
  | .group _ clauses => "(" ++ textOfList clauses ++ ")"

/-- The texts of clauses with their connectives between them. -/
def textOfList : List Clause → String
  | [] => ""
  | c :: rest => text c ++ textOfRest rest

def textOfRest : List Clause → String
  | [] => ""
  | c :: rest => " " ++ c.connective.keyword ++ " " ++ text c ++ textOfRest rest

end

mutual

/-- The operands of a clause in the order of its placeholders. -/
def bindings : Clause → List Value
  | .compare _ _ operand => [operand]
  | .isIn _ values => values
  | .notIn _ values => values
  | .group _ clauses => bindingsOfList clauses
  | _ => []

def bindingsOfList : List Clause → List Value
  | [] => []
  | c :: rest => bindings c ++ bindingsOfList rest

end

/-- A condition with its keyword; none without clauses. -/
def whereText (clauses : List Clause) : String :=
  if clauses.isEmpty then "" else " where " ++ textOfList clauses

/-- The order of rows with its keyword; none without keys. -/
def orderText (keys : List SortKey) : String :=
  if keys.isEmpty then ""
  else " order by " ++ commaJoin (keys.map fun k => quoteName k.1 ++ " " ++ k.2.keyword)

theorem bindingsOfList_append (as bs : List Clause) :
    bindingsOfList (as ++ bs) = bindingsOfList as ++ bindingsOfList bs := by
  induction as with
  | nil => rfl
  | cons a rest ih => simp [bindingsOfList, ih]

example : quoteName "users.created_at" = "\"users\".\"created_at\"" := by
  decide +kernel

example : quoteName "a\"b" = "\"a\"\"b\"" := by decide +kernel

end PagedFilter.Table.Sql
