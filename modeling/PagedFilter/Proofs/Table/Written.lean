import PagedFilter.Proofs.Table.Decoding

/-!
What SQL shows outside of quotes. Of a name it is the points alone, so no name adds anything to the
text around it.
-/

namespace PagedFilter.Table

namespace Sql

/-! ### Clauses with their names written in any way -/

section Write

variable (name : String → List Char)

mutual

/-- The text of a clause with names written in a way of their own. -/
def write : Clause → List Char
  | .compare column c _ => name column ++ (Test.compare c).text.toList
  | .isIn column values =>
    if values.isEmpty then "1 = 0".toList
    else name column ++ (" in ".toList ++ '(' :: ((placeholders values).toList ++ [')']))
  | .notIn column values =>
    if values.isEmpty then "1 = 1".toList
    else name column ++ (" not in ".toList ++ '(' :: ((placeholders values).toList ++ [')']))
  | .isNull column => name column ++ " is null".toList
  | .isNotNull column => name column ++ " is not null".toList
  | .never => "1 = 0".toList
  | .group _ clauses => '(' :: (writeList clauses ++ [')'])

def writeList : List Clause → List Char
  | [] => []
  | c :: rest => write c ++ writeRest rest

def writeRest : List Clause → List Char
  | [] => []
  | c :: rest => (" " ++ c.connective.keyword ++ " ").toList ++ (write c ++ writeRest rest)

end

end Write

mutual

theorem toList_text : (c : Clause) → (text c).toList = write (fun n => (quoteName n).toList) c
  | .compare column c v => by simp [text, write, Test.text]
  | .isIn column values => by
    rw [text, write]
    split <;> simp
  | .notIn column values => by
    rw [text, write]
    split <;> simp
  | .isNull column => by simp [text, write]
  | .isNotNull column => by simp [text, write]
  | .never => by simp [text, write]
  | .group joined clauses => by simp [text, write, toList_textOfList clauses]

theorem toList_textOfList : (cs : List Clause) →
    (textOfList cs).toList = writeList (fun n => (quoteName n).toList) cs
  | [] => by simp [textOfList, writeList]
  | c :: rest => by simp [textOfList, writeList, toList_text c, toList_textOfRest rest]

theorem toList_textOfRest : (cs : List Clause) →
    (textOfRest cs).toList = writeRest (fun n => (quoteName n).toList) cs
  | [] => by simp [textOfRest, writeRest]
  | c :: rest => by simp [textOfRest, writeRest, toList_text c, toList_textOfRest rest]

end

/-! ### Outside of quotes -/

/-- A text that shows another one outside of quotes and ends there, whatever comes behind it. -/
def Shows (t u : List Char) : Prop := ∀ s, outside false (t ++ s) = u ++ outside false s

theorem Shows.append {t u t' u' : List Char} (h : Shows t u) (h' : Shows t' u') :
    Shows (t ++ t') (u ++ u') := by
  intro s
  rw [List.append_assoc, h, h', List.append_assoc]

theorem shows_of_not_mem {t : List Char} (h : '"' ∉ t) : Shows t t := outside_of_not_mem h

theorem shows_quoteName (name : String) : Shows (quoteName name).toList (points name) :=
  outside_quoteName name

theorem Shows.outside_eq {t u : List Char} (h : Shows t u) : outside false t = u := by
  have hend := h []
  rw [List.append_nil, outside, List.append_nil] at hend
  exact hend

theorem mem_placeholders {values : List Value} {c : Char} (h : c ∈ (placeholders values).toList) :
    c = '?' ∨ c = ',' ∨ c = ' ' := by
  induction values with
  | nil => simp [placeholders, commaJoin] at h
  | cons v rest ih =>
    cases rest with
    | nil =>
      have hmark : c = '?' := by simpa [placeholders, commaJoin] using h
      exact .inl hmark
    | cons w rest =>
      have hsplit : c = '?' ∨ c = ',' ∨ c = ' ' ∨ c ∈ (placeholders (w :: rest)).toList := by
        simpa [placeholders, commaJoin] using h
      rcases hsplit with hc | hc | hc | hc
      · exact .inl hc
      · exact .inr (.inl hc)
      · exact .inr (.inr hc)
      · exact ih hc

theorem not_mem_placeholders {c : Char} (hmark : c ≠ '?') (hcomma : c ≠ ',') (hspace : c ≠ ' ')
    (values : List Value) : c ∉ (placeholders values).toList := by
  intro h
  rcases mem_placeholders h with hc | hc | hc
  · exact hmark hc
  · exact hcomma hc
  · exact hspace hc

/-- A test among values, or the constant that stands for it if there are none. -/
theorem shows_among {constant test : List Char} (hconstant : '"' ∉ constant) (htest : '"' ∉ test)
    (column : String) (values : List Value) :
    Shows
      (if values.isEmpty then constant
        else (quoteName column).toList ++ (test ++ '(' :: ((placeholders values).toList ++ [')'])))
      (if values.isEmpty then constant
        else points column ++ (test ++ '(' :: ((placeholders values).toList ++ [')']))) := by
  have hmarks : '"' ∉ '(' :: ((placeholders values).toList ++ [')']) := by
    have hnone := not_mem_placeholders (c := '"') (by decide) (by decide) (by decide) values
    simp [hnone]
  split
  · exact shows_of_not_mem hconstant
  · have hbehind := (shows_of_not_mem htest).append (shows_of_not_mem hmarks)
    exact (shows_quoteName column).append hbehind

mutual

theorem shows_write : (c : Clause) →
    Shows (write (fun n => (quoteName n).toList) c) (write points c)
  | .compare column c v => by
    rw [write, write]
    exact (shows_quoteName column).append (shows_of_not_mem (by cases c <;> decide))
  | .isIn column values => by
    rw [write, write]
    exact shows_among (by decide) (by decide) column values
  | .notIn column values => by
    rw [write, write]
    exact shows_among (by decide) (by decide) column values
  | .isNull column => by
    rw [write, write]
    exact (shows_quoteName column).append (shows_of_not_mem (by decide))
  | .isNotNull column => by
    rw [write, write]
    exact (shows_quoteName column).append (shows_of_not_mem (by decide))
  | .never => by
    rw [write, write]
    exact shows_of_not_mem (by decide)
  | .group joined clauses => by
    have hopen : Shows ['('] ['('] := shows_of_not_mem (by decide)
    have hclose : Shows [')'] [')'] := shows_of_not_mem (by decide)
    rw [write, write]
    exact hopen.append ((shows_writeList clauses).append hclose)

theorem shows_writeList : (cs : List Clause) →
    Shows (writeList (fun n => (quoteName n).toList) cs) (writeList points cs)
  | [] => by
    rw [writeList, writeList]
    exact shows_of_not_mem (by decide)
  | c :: rest => by
    rw [writeList, writeList]
    exact (shows_write c).append (shows_writeRest rest)

theorem shows_writeRest : (cs : List Clause) →
    Shows (writeRest (fun n => (quoteName n).toList) cs) (writeRest points cs)
  | [] => by
    rw [writeRest, writeRest]
    exact shows_of_not_mem (by decide)
  | c :: rest => by
    have hjoin : Shows (" " ++ c.connective.keyword ++ " ").toList
        (" " ++ c.connective.keyword ++ " ").toList :=
      shows_of_not_mem (by cases c.connective <;> decide)
    rw [writeRest, writeRest]
    exact hjoin.append ((shows_write c).append (shows_writeRest rest))

end

/-- The text that counts the rows of a query, with names written in a way of their own. -/
def writeQuery (name : String → List Char) (q : Query) : List Char :=
  "select count(*) from ".toList ++ (name q.table ++
    (if q.clauses.isEmpty then [] else " where ".toList ++ writeList name q.clauses))

theorem outside_countSql (q : Query) : outside false q.countSql.toList = writeQuery points q := by
  have htext : q.countSql.toList = writeQuery (fun n => (quoteName n).toList) q := by
    unfold Query.countSql writeQuery
    rw [String.toList_append, String.toList_append, List.append_assoc, whereText]
    split
    · rfl
    · rw [String.toList_append, toList_textOfList]
  have hwhere : Shows (if q.clauses.isEmpty then [] else
      " where ".toList ++ writeList (fun n => (quoteName n).toList) q.clauses)
      (if q.clauses.isEmpty then [] else " where ".toList ++ writeList points q.clauses) := by
    split
    · exact shows_of_not_mem (by decide)
    · exact (shows_of_not_mem (by decide)).append (shows_writeList q.clauses)
  have hselect : Shows "select count(*) from ".toList "select count(*) from ".toList :=
    shows_of_not_mem (by decide)
  rw [htext]
  exact (hselect.append ((shows_quoteName q.table).append hwhere)).outside_eq

end Sql

/-! ### Other names -/

namespace Clause

mutual

/-- The clause with its columns named otherwise. -/
def mapColumns (f : String → String) : Clause → Clause
  | compare column c v => compare (f column) c v
  | isIn column values => isIn (f column) values
  | notIn column values => notIn (f column) values
  | isNull column => isNull (f column)
  | isNotNull column => isNotNull (f column)
  | never => never
  | group joined clauses => group joined (mapColumnsOfList f clauses)

def mapColumnsOfList (f : String → String) : List Clause → List Clause
  | [] => []
  | c :: rest => mapColumns f c :: mapColumnsOfList f rest

end

theorem connective_mapColumns (f : String → String) (c : Clause) :
    (c.mapColumns f).connective = c.connective := by
  cases c <;> simp [mapColumns, connective]

end Clause

/-- The query with its table and its columns named otherwise. -/
def Query.rename (f : String → String) (q : Query) : Query :=
  { q with table := f q.table, clauses := Clause.mapColumnsOfList f q.clauses }

namespace Sql

section Rename

variable (name : String → List Char) (f : String → String)

mutual

theorem write_mapColumns : (c : Clause) → write name (c.mapColumns f) = write (name ∘ f) c
  | .compare _ _ _ | .isIn _ _ | .notIn _ _ | .isNull _ | .isNotNull _ => by
    rw [Clause.mapColumns, write, write]
    rfl
  | .never => by
    rw [Clause.mapColumns, write, write]
  | .group _ clauses => by
    rw [Clause.mapColumns, write, write, writeList_mapColumns clauses]

theorem writeList_mapColumns : (cs : List Clause) →
    writeList name (Clause.mapColumnsOfList f cs) = writeList (name ∘ f) cs
  | [] => by rw [Clause.mapColumnsOfList, writeList, writeList]
  | c :: rest => by
    rw [Clause.mapColumnsOfList, writeList, writeList, write_mapColumns c, writeRest_mapColumns rest]

theorem writeRest_mapColumns : (cs : List Clause) →
    writeRest name (Clause.mapColumnsOfList f cs) = writeRest (name ∘ f) cs
  | [] => by rw [Clause.mapColumnsOfList, writeRest, writeRest]
  | c :: rest => by
    rw [Clause.mapColumnsOfList, writeRest, writeRest, write_mapColumns c, writeRest_mapColumns rest,
      Clause.connective_mapColumns]

end

end Rename

/-- Names with as many points show the same SQL outside of their quotes. -/
theorem outside_countSql_rename {f : String → String} (hf : ∀ name, points (f name) = points name)
    (q : Query) : outside false (q.rename f).countSql.toList = outside false q.countSql.toList := by
  have hpoints : points ∘ f = points := funext hf
  have hempty : (Clause.mapColumnsOfList f q.clauses).isEmpty = q.clauses.isEmpty := by
    cases q.clauses <;> rfl
  rw [outside_countSql, outside_countSql]
  unfold writeQuery Query.rename
  simp only [hf, hempty, writeList_mapColumns, hpoints]

end Sql

end PagedFilter.Table
