import Mathlib.Data.List.Basic
import PagedFilter.Proofs.Table.Quoting

/-!
Reading SQL back. The text of clauses and their operands, in the order of the placeholders, give back
every clause as far as the text shows it: a membership test among no values is a constant, and the
connective of the first clause of a list is not written.
-/

namespace PagedFilter.Table

/-! ### What a text shows of clauses -/

namespace Clause

/-- The clause with another connective, if it is one that carries its own. -/
def joinedBy (k : Connective) : Clause → Clause
  | group _ clauses => group k clauses
  | c => c

mutual

/-- A clause as its text shows it when it is the first of a list. -/
def shown : Clause → Clause
  | isIn column values => if values.isEmpty then never else isIn column values
  | notIn column values => if values.isEmpty then notIn "" [] else notIn column values
  | group _ clauses => group .and (shownList clauses)
  | c => c

def shownList : List Clause → List Clause
  | [] => []
  | c :: rest => shown c :: shownRest rest

def shownRest : List Clause → List Clause
  | [] => []
  | c :: rest => (shown c).joinedBy c.connective :: shownRest rest

end

end Clause

namespace Sql

/-! ### Readers -/

/-- Reads clauses or parts of them, and gives what is left of the text and of the operands. -/
abbrev Reading (α : Type) := Option (α × List Char × List Value)

/-- The tests that stand behind the name of a column. -/
inductive Test where
  | compare (by_ : Comparison)
  | isIn | notIn | isNull | isNotNull
  deriving DecidableEq, Repr

namespace Test

def values : List Test := Comparison.values.map compare ++ [isIn, notIn, isNull, isNotNull]

/-- The text of a test, up to its first placeholder where it may have several. -/
def text : Test → String
  | compare c => " " ++ c.symbol ++ " ?"
  | isIn => " in ("
  | notIn => " not in ("
  | isNull => " is null"
  | isNotNull => " is not null"

end Test

def readTest? (s : List Char) : Option (Test × List Char) :=
  Test.values.findSome? fun t => (s.dropPrefix? t.text.toList).map fun rest => (t, rest)

/-- Reads placeholders up to the parenthesis behind them. -/
def readMarks? : List Char → Option (Nat × List Char)
  | '?' :: ',' :: ' ' :: s => (readMarks? s).map fun p => (p.1 + 1, p.2)
  | '?' :: ')' :: s => some (1, s)
  | _ => none

def readOperands? (column : String) (t : Test) (s : List Char) (operands : List Value) :
    Reading Clause :=
  match t, operands with
  | .compare c, v :: rest => some (.compare column c v, s, rest)
  | .compare _, [] => none
  | .isIn, _ => (readMarks? s).map fun p =>
      (.isIn column (operands.take p.1), p.2, operands.drop p.1)
  | .notIn, _ => (readMarks? s).map fun p =>
      (.notIn column (operands.take p.1), p.2, operands.drop p.1)
  | .isNull, _ => some (.isNull column, s, operands)
  | .isNotNull, _ => some (.isNotNull column, s, operands)

/-- Reads a clause on a column. -/
def readColumn? (s : List Char) (operands : List Value) : Reading Clause :=
  (readName? s).bind fun name => (readTest? name.2).bind fun test =>
    readOperands? name.1 test.1 test.2 operands

/-- Reads the constants that stand for a test among no values. -/
def readConstant? (s : List Char) : Option (Clause × List Char) :=
  [("1 = 0", Clause.never), ("1 = 1", .notIn "" [])].findSome? fun c =>
    (s.dropPrefix? c.1.toList).map fun rest => (c.2, rest)

def readConnective? (s : List Char) : Option (Connective × List Char) :=
  [Connective.and, .or].findSome? fun k =>
    (s.dropPrefix? (" " ++ k.keyword ++ " ").toList).map fun rest => (k, rest)

mutual

/-- Reads a clause as the first of a list, at most as deep as the fuel lasts. -/
def readClause? : Nat → List Char → List Value → Reading Clause
  | 0, _, _ => none
  | fuel + 1, '(' :: s, operands =>
    (readList? fuel s operands).bind fun p =>
      match p.2.1 with
      | ')' :: s => some (.group .and p.1, s, p.2.2)
      | _ => none
  | _ + 1, '"' :: s, operands => readColumn? ('"' :: s) operands
  | _ + 1, s, operands => (readConstant? s).map fun c => (c.1, c.2, operands)

/-- Reads a list of clauses, none where no clause stands. -/
def readList? : Nat → List Char → List Value → Reading (List Clause)
  | 0, _, _ => none
  | fuel + 1, s, operands =>
    match readClause? fuel s operands with
    | none => some ([], s, operands)
    | some c => (readRest? fuel c.2.1 c.2.2).map fun rest => (c.1 :: rest.1, rest.2)

/-- Reads the clauses behind the first one with the connectives in front of them. -/
def readRest? : Nat → List Char → List Value → Reading (List Clause)
  | 0, _, _ => none
  | fuel + 1, s, operands =>
    match readConnective? s with
    | none => some ([], s, operands)
    | some k => (readClause? fuel k.2 operands).bind fun c =>
      (readRest? fuel c.2.1 c.2.2).map fun rest => (c.1.joinedBy k.1 :: rest.1, rest.2)

end

/-- Reads a condition to the end, if there is one. -/
def readWhere? (s : List Char) (operands : List Value) : Option (List Clause) :=
  match s.dropPrefix? " where ".toList with
  | none => if s.isEmpty && operands.isEmpty then some [] else none
  | some s => (readList? (2 * s.length + 1) s operands).bind fun p =>
    if p.2.1.isEmpty && p.2.2.isEmpty then some p.1 else none

/-- Reads the table and the clauses of a query from the text that counts its rows and its operands. -/
def decode? (sql : String) (operands : List Value) : Option (String × List Clause) :=
  (sql.toList.dropPrefix? "select count(*) from ".toList).bind fun s => (readName? s).bind fun name =>
    (readWhere? name.2 operands).map fun clauses => (name.1, clauses)

/-! ### Reading what was written -/

theorem readTest?_text (t : Test) (s : List Char) : readTest? (t.text.toList ++ s) = some (t, s) := by
  cases t with
  | compare c =>
    cases c <;> simp [readTest?, Test.values, Comparison.values, Test.text, Comparison.symbol,
      List.dropPrefix?]
  | _ =>
    simp [readTest?, Test.values, Comparison.values, Test.text, Comparison.symbol, List.dropPrefix?]

theorem endsName_test (t : Test) (s : List Char) : EndsName (t.text.toList ++ s) := by
  have hspace : (t.text.toList ++ s).head? = some ' ' := by
    cases t with
    | compare c => cases c <;> rfl
    | _ => rfl
  rw [EndsName, hspace]
  decide

theorem readConnective?_keyword (k : Connective) (s : List Char) :
    readConnective? ((" " ++ k.keyword ++ " ").toList ++ s) = some (k, s) := by
  cases k <;> simp [readConnective?, Connective.keyword, List.dropPrefix?]

theorem readMarks?_placeholders {values : List Value} (h : values ≠ []) (s : List Char) :
    readMarks? ((placeholders values).toList ++ ')' :: s) = some (values.length, s) := by
  induction values with
  | nil => exact absurd rfl h
  | cons v rest ih =>
    cases rest with
    | nil =>
      have htext : (placeholders [v]).toList ++ ')' :: s = '?' :: ')' :: s := by
        simp [placeholders, commaJoin]
      rw [htext, readMarks?]
      rfl
    | cons w rest =>
      have hrest := ih (List.cons_ne_nil w rest)
      have htext : (placeholders (v :: w :: rest)).toList ++ ')' :: s =
          '?' :: ',' :: ' ' :: ((placeholders (w :: rest)).toList ++ ')' :: s) := by
        rw [placeholders, List.map_cons, List.map_cons, commaJoin, String.toList_append,
          String.toList_append]
        rfl
      rw [htext, readMarks?, hrest]
      rfl

theorem readColumn?_test (column : String) (t : Test) (s : List Char) (operands : List Value) :
    readColumn? ((quoteName column).toList ++ (t.text.toList ++ s)) operands =
      readOperands? column t s operands := by
  rw [readColumn?, readName?_quoteName column (endsName_test t s), Option.bind_some, readTest?_text,
    Option.bind_some]

theorem readClause?_test (fuel : Nat) (column : String) (t : Test) (s : List Char)
    (operands : List Value) :
    readClause? (fuel + 1) ((quoteName column).toList ++ (t.text.toList ++ s)) operands =
      readOperands? column t s operands := by
  rw [← readColumn?_test, toList_quoteName, List.cons_append, readClause?]

theorem readClause?_constant (fuel : Nat) (s : List Char) (operands : List Value) :
    readClause? (fuel + 1) ("1 = 0".toList ++ s) operands = some (.never, s, operands) ∧
      readClause? (fuel + 1) ("1 = 1".toList ++ s) operands = some (.notIn "" [], s, operands) := by
  constructor
  · simp [readClause?, readConstant?, List.dropPrefix?]
  · simp [readClause?, readConstant?, List.dropPrefix?]

/-- No clause stands where a list ends. -/
theorem readClause?_close (fuel : Nat) (s : List Char) (operands : List Value) :
    readClause? fuel (')' :: s) operands = none := by
  cases fuel with
  | zero => rfl
  | succ fuel => simp [readClause?, readConstant?, List.dropPrefix?]

theorem readConnective?_close (s : List Char) : readConnective? (')' :: s) = none := by
  simp [readConnective?, Connective.keyword, List.dropPrefix?]

theorem length_text_pos (c : Clause) : 0 < (text c).length := by
  have hclose : ")".length = 1 := rfl
  have hmark : " ?".length = 2 := rfl
  have hnull : " is null".length = 8 := rfl
  have hnotnull : " is not null".length = 12 := rfl
  cases c with
  | isIn _ values | notIn _ values =>
    rw [text]
    split
    · decide
    · simp only [String.length_append]
      omega
  | never =>
    rw [text]
    decide
  | _ =>
    simp only [text, String.length_append]
    omega

theorem exists_fuel {c : Clause} {fuel : Nat} (h : 2 * (text c).length ≤ fuel) :
    ∃ n, fuel = n + 1 := by
  have hpos := length_text_pos c
  exact ⟨fuel - 1, by omega⟩

/-- A clause is read from its text and its operands, whatever comes behind them. -/
def IsRead (c : Clause) : Prop := ∀ (fuel : Nat) (s : List Char) (operands : List Value),
  2 * (text c).length ≤ fuel →
    readClause? fuel ((text c).toList ++ s) (bindings c ++ operands) = some (c.shown, s, operands)

/-- So are the clauses behind the first one, up to where no connective follows. -/
def IsReadRest (cs : List Clause) : Prop := ∀ (fuel : Nat) (s : List Char) (operands : List Value),
  2 * (textOfRest cs).length + 1 ≤ fuel → readConnective? s = none →
    readRest? fuel ((textOfRest cs).toList ++ s) (bindingsOfList cs ++ operands) =
      some (Clause.shownRest cs, s, operands)

/-- A list of clauses is read up to the parenthesis behind it, or if it has clauses to the end. -/
def IsReadList (cs : List Clause) : Prop := ∀ (fuel : Nat) (s : List Char) (operands : List Value),
  2 * (textOfList cs).length + 1 ≤ fuel → (cs = [] → ∃ rest, s = ')' :: rest) →
    readConnective? s = none →
      readList? fuel ((textOfList cs).toList ++ s) (bindingsOfList cs ++ operands) =
        some (Clause.shownList cs, s, operands)

section IsRead

variable {c : Clause}

theorem isRead_of_constant (sql : String) (htext : text c = sql) (hbindings : bindings c = [])
    (hread : ∀ fuel s operands, readClause? (fuel + 1) (sql.toList ++ s) operands =
      some (c.shown, s, operands)) : IsRead c := by
  intro fuel s operands hfuel
  obtain ⟨fuel, rfl⟩ := exists_fuel hfuel
  rw [htext, hbindings, List.nil_append]
  exact hread fuel s operands

/-- A test with one placeholder or none. -/
theorem isRead_of_test (column : String) (t : Test) (htext : text c = quoteName column ++ t.text)
    (hread : ∀ s operands, readOperands? column t s (bindings c ++ operands) =
      some (c.shown, s, operands)) : IsRead c := by
  intro fuel s operands hfuel
  obtain ⟨fuel, rfl⟩ := exists_fuel hfuel
  rw [htext, String.toList_append, List.append_assoc, readClause?_test]
  exact hread s operands

/-- A test among values, for which a constant stands if there are none. -/
theorem isRead_of_values (column : String) (t : Test) (values : List Value) (constant : String)
    (empty : Clause)
    (htext : text c = if values.isEmpty then constant
      else quoteName column ++ t.text ++ placeholders values ++ ")")
    (hbindings : bindings c = values) (hshown : c.shown = if values.isEmpty then empty else c)
    (hconstant : ∀ fuel s operands, readClause? (fuel + 1) (constant.toList ++ s) operands =
      some (empty, s, operands))
    (hread : ∀ s operands, readMarks? ((placeholders values).toList ++ ')' :: s) =
        some (values.length, s) →
      readOperands? column t ((placeholders values).toList ++ ')' :: s) (values ++ operands) =
        some (c, s, operands)) : IsRead c := by
  intro fuel s operands hfuel
  obtain ⟨fuel, rfl⟩ := exists_fuel hfuel
  cases values with
  | nil =>
    rw [htext, hshown, hbindings]
    exact hconstant fuel s operands
  | cons v rest =>
    have hclose : (text c).toList ++ s = (quoteName column).toList ++
        (t.text.toList ++ ((placeholders (v :: rest)).toList ++ ')' :: s)) := by
      rw [htext]
      simp
    have hmarks := readMarks?_placeholders (List.cons_ne_nil v rest) s
    rw [hclose, readClause?_test, hbindings, hshown]
    exact hread s operands hmarks

end IsRead

theorem isRead_isIn (column : String) (values : List Value) : IsRead (.isIn column values) := by
  apply isRead_of_values column .isIn values "1 = 0" .never
  · simp [text, Test.text, String.append_assoc]
  · simp [bindings]
  · simp [Clause.shown]
  · intro fuel s operands
    exact (readClause?_constant fuel s operands).1
  · intro s operands hmarks
    rw [readOperands?, hmarks, Option.map_some, List.take_left, List.drop_left]

theorem isRead_notIn (column : String) (values : List Value) : IsRead (.notIn column values) := by
  apply isRead_of_values column .notIn values "1 = 1" (.notIn "" [])
  · simp [text, Test.text, String.append_assoc]
  · simp [bindings]
  · simp [Clause.shown]
  · intro fuel s operands
    exact (readClause?_constant fuel s operands).2
  · intro s operands hmarks
    rw [readOperands?, hmarks, Option.map_some, List.take_left, List.drop_left]

theorem isRead_compare (column : String) (c : Comparison) (v : Value) :
    IsRead (.compare column c v) := by
  apply isRead_of_test column (.compare c)
  · simp [text, Test.text, String.append_assoc]
  · intro s operands
    rfl

theorem isRead_isNull (column : String) : IsRead (.isNull column) := by
  apply isRead_of_test column .isNull
  · simp [text, Test.text]
  · intro s operands
    rfl

theorem isRead_isNotNull (column : String) : IsRead (.isNotNull column) := by
  apply isRead_of_test column .isNotNull
  · simp [text, Test.text]
  · intro s operands
    rfl

theorem isRead_never : IsRead .never := by
  apply isRead_of_constant "1 = 0"
  · simp [text]
  · simp [bindings]
  · intro fuel s operands
    exact (readClause?_constant fuel s operands).1

theorem isRead_group (joined : Connective) {clauses : List Clause} (h : IsReadList clauses) :
    IsRead (.group joined clauses) := by
  intro fuel s operands hfuel
  have hlength : (text (.group joined clauses)).length = (textOfList clauses).length + 2 := by
    have hopen : "(".length = 1 := rfl
    have hclose : ")".length = 1 := rfl
    simp only [text, String.length_append]
    omega
  obtain ⟨fuel, rfl⟩ := exists_fuel hfuel
  have htext : (text (.group joined clauses)).toList ++ s =
      '(' :: ((textOfList clauses).toList ++ ')' :: s) := by
    simp [text]
  have hlist := h fuel (')' :: s) operands (by omega) (fun _ => ⟨s, rfl⟩) (readConnective?_close s)
  rw [htext, readClause?, bindings, hlist]
  rfl

theorem isReadList_nil : IsReadList [] := by
  intro fuel s operands hfuel hend _
  obtain ⟨fuel, rfl⟩ : ∃ n, fuel = n + 1 := ⟨fuel - 1, by omega⟩
  obtain ⟨rest, rfl⟩ := hend rfl
  have htext : (textOfList []).toList ++ ')' :: rest = ')' :: rest := by simp [textOfList]
  rw [htext, readList?, readClause?_close]
  rfl

theorem isReadList_cons {c : Clause} {rest : List Clause} (hc : IsRead c) (h : IsReadRest rest) :
    IsReadList (c :: rest) := by
  intro fuel s operands hfuel _ hs
  obtain ⟨fuel, rfl⟩ : ∃ n, fuel = n + 1 := ⟨fuel - 1, by omega⟩
  have hpos := length_text_pos c
  have hlength : (textOfList (c :: rest)).length = (text c).length + (textOfRest rest).length := by
    rw [textOfList, String.length_append]
  have hfirst := hc fuel ((textOfRest rest).toList ++ s) (bindingsOfList rest ++ operands) (by omega)
  have hrest := h fuel s operands (by omega) hs
  rw [textOfList, String.toList_append, bindingsOfList, List.append_assoc, List.append_assoc,
    readList?, hfirst]
  simp only [hrest]
  rfl

theorem isReadRest_nil : IsReadRest [] := by
  intro fuel s operands hfuel hs
  obtain ⟨fuel, rfl⟩ : ∃ n, fuel = n + 1 := ⟨fuel - 1, by omega⟩
  have htext : (textOfRest []).toList ++ s = s := by simp [textOfRest]
  rw [htext, readRest?, hs]
  rfl

theorem isReadRest_cons {c : Clause} {rest : List Clause} (hc : IsRead c) (h : IsReadRest rest) :
    IsReadRest (c :: rest) := by
  intro fuel s operands hfuel hs
  obtain ⟨fuel, rfl⟩ : ∃ n, fuel = n + 1 := ⟨fuel - 1, by omega⟩
  have hlength : (text c).length + (textOfRest rest).length < (textOfRest (c :: rest)).length := by
    have hspace : " ".length = 1 := rfl
    simp only [textOfRest, String.length_append]
    omega
  have htext : (textOfRest (c :: rest)).toList ++ s = (" " ++ c.connective.keyword ++ " ").toList ++
      ((text c).toList ++ ((textOfRest rest).toList ++ s)) := by
    simp [textOfRest]
  have hclause := hc fuel ((textOfRest rest).toList ++ s) (bindingsOfList rest ++ operands) (by omega)
  have hrest := h fuel s operands (by omega) hs
  rw [htext, bindingsOfList, List.append_assoc, readRest?, readConnective?_keyword]
  simp only [hclause, Option.bind_some, hrest]
  rfl

mutual

theorem isRead : (c : Clause) → IsRead c
  | .compare column c v => isRead_compare column c v
  | .isIn column values => isRead_isIn column values
  | .notIn column values => isRead_notIn column values
  | .isNull column => isRead_isNull column
  | .isNotNull column => isRead_isNotNull column
  | .never => isRead_never
  | .group joined clauses => isRead_group joined (isReadList clauses)

theorem isReadList : (cs : List Clause) → IsReadList cs
  | [] => isReadList_nil
  | c :: rest => isReadList_cons (isRead c) (isReadRest rest)

theorem isReadRest : (cs : List Clause) → IsReadRest cs
  | [] => isReadRest_nil
  | c :: rest => isReadRest_cons (isRead c) (isReadRest rest)

end

theorem dropPrefix?_append (p s : List Char) : (p ++ s).dropPrefix? p = some s := by
  rw [List.dropPrefix?_eq_some_iff]
  exact ⟨p, rfl, beq_self_eq_true p⟩

/-- A condition ends the name in front of it. -/
theorem endsName_whereText (clauses : List Clause) : EndsName (whereText clauses).toList := by
  rw [whereText]
  split
  · exact ⟨by decide, by decide⟩
  · have hspace : (" where " ++ textOfList clauses).toList.head? = some ' ' := by
      rw [String.toList_append]
      rfl
    rw [EndsName, hspace]
    decide

/-- Reads the condition behind the name of a table. -/
theorem readWhere?_whereText (clauses : List Clause) :
    readWhere? (whereText clauses).toList (bindingsOfList clauses) =
      some (Clause.shownList clauses) := by
  cases clauses with
  | nil => simp [readWhere?, whereText, bindingsOfList, Clause.shownList, List.dropPrefix?]
  | cons c rest =>
    have hwhere : (whereText (c :: rest)).toList =
        " where ".toList ++ (textOfList (c :: rest)).toList := by
      simp [whereText]
    have hfuel : 2 * (textOfList (c :: rest)).length + 1 ≤
        2 * (textOfList (c :: rest)).toList.length + 1 :=
      Nat.le_of_eq (by rw [String.length_toList])
    have hread := isReadList (c :: rest) _ [] [] hfuel (absurd · (List.cons_ne_nil c rest)) rfl
    rw [List.append_nil, List.append_nil] at hread
    rw [readWhere?, hwhere, dropPrefix?_append]
    simp only [hread]
    rfl

/-- The text and the operands of a query that counts give back its table, and its clauses as far as
the text shows them. -/
theorem decode?_countSql (q : Query) :
    decode? q.countSql q.countBindings = some (q.table, Clause.shownList q.clauses) := by
  have htext : q.countSql.toList = "select count(*) from ".toList ++
      ((quoteName q.table).toList ++ (whereText q.clauses).toList) := by
    unfold Query.countSql
    rw [String.toList_append, String.toList_append, List.append_assoc]
  rw [decode?, htext, dropPrefix?_append, Option.bind_some,
    readName?_quoteName q.table (endsName_whereText q.clauses), Option.bind_some,
    Query.countBindings, readWhere?_whereText, Option.map_some]

end Sql

/-! ### Queries with the same text -/

namespace Clause

theorem connective_joinedBy_shown (c : Clause) :
    ((shown c).joinedBy c.connective).connective = c.connective := by
  cases c with
  | isIn column values | notIn column values =>
    rw [shown]
    split <;> rfl
  | _ => rfl

section Row

variable (row : Row)

theorem truth_joinedBy (k : Connective) (c : Clause) : (c.joinedBy k).truth row = c.truth row := by
  cases c with
  | group joined clauses => simp only [joinedBy, truth]
  | _ => rfl

theorem fault?_joinedBy (k : Connective) (c : Clause) : (c.joinedBy k).fault? row = c.fault? row := by
  cases c with
  | group joined clauses => simp only [joinedBy, fault?]
  | _ => rfl

mutual

/-- What the text of clauses shows decides which rows they are true of. -/
theorem truth_shown : (c : Clause) → (shown c).truth row = c.truth row
  | .isIn column values => by
    rw [shown]
    split
    · next h => rw [truth, truth, List.isEmpty_iff.1 h, membership_nil]
    · rfl
  | .notIn column values => by
    rw [shown]
    split
    · next h => rw [truth, truth, List.isEmpty_iff.1 h, membership_nil, membership_nil]
    · rfl
  | .group joined clauses => by
    rw [shown, truth, truth, truthOfList_shownList clauses]
  | .compare _ _ _ => by simp [shown]
  | .isNull _ => by simp [shown]
  | .isNotNull _ => by simp [shown]
  | .never => by simp [shown]

theorem truthOfList_shownList : (cs : List Clause) →
    truthOfList row (shownList cs) = truthOfList row cs
  | [] => by rw [shownList]
  | c :: rest => by
    rw [shownList, truthOfList, truthOfList, truth_shown c, truthFrom_shownRest rest]

theorem truthFrom_shownRest : (cs : List Clause) → ∀ passed present,
    truthFrom row passed present (shownRest cs) = truthFrom row passed present cs
  | [] => by
    intro passed present
    rw [shownRest]
  | c :: rest => by
    intro passed present
    have hc := truth_shown c
    have hconnective := connective_joinedBy_shown c
    rw [shownRest, truthFrom, truthFrom, hconnective, truth_joinedBy, hc]
    cases c.connective <;> exact truthFrom_shownRest rest _ _

end

mutual

theorem fault?_shown : (c : Clause) → (shown c).fault? row = c.fault? row
  | .isIn column values => by
    rw [shown]
    split <;> simp [fault?]
  | .notIn column values => by
    rw [shown]
    split <;> simp [fault?]
  | .group joined clauses => by
    rw [shown, fault?, fault?, faultOfList?_shownList clauses]
  | .compare _ _ _ => by simp [shown]
  | .isNull _ => by simp [shown]
  | .isNotNull _ => by simp [shown]
  | .never => by simp [shown]

theorem faultOfList?_shownList : (cs : List Clause) →
    faultOfList? row (shownList cs) = faultOfList? row cs
  | [] => by rw [shownList]
  | c :: rest => by
    rw [shownList, faultOfList?, faultOfList?, fault?_shown c, faultOfList?_shownRest rest]

theorem faultOfList?_shownRest : (cs : List Clause) →
    faultOfList? row (shownRest cs) = faultOfList? row cs
  | [] => by rw [shownRest]
  | c :: rest => by
    rw [shownRest, faultOfList?, faultOfList?, fault?_joinedBy, fault?_shown c,
      faultOfList?_shownRest rest]

end

end Row

end Clause

/-- Clauses that show the same select the same rows. -/
theorem select_eq_of_shownList {q₁ q₂ : Query}
    (h : Clause.shownList q₁.clauses = Clause.shownList q₂.clauses) (table : Table) :
    table.select q₁ = table.select q₂ := by
  have hfaults : (Clause.faultOfList? · q₁.clauses) = (Clause.faultOfList? · q₂.clauses) := by
    funext row
    rw [← Clause.faultOfList?_shownList row q₁.clauses, h, Clause.faultOfList?_shownList]
  have hselects : selects q₁.clauses = selects q₂.clauses := by
    funext row
    rw [selects, selects, ← Clause.truthOfList_shownList row q₁.clauses, h,
      Clause.truthOfList_shownList]
  rw [Table.select, Table.select, hfaults, hselects]

end PagedFilter.Table
