import Mathlib.Data.List.Chain
import PagedFilter.Proofs.Table.Pruned
import PagedFilter.Proofs.Table.Written

/-!
The SQL of queries that were built by adding clauses. It shows no empty group outside of its quotes, and
with its operands it determines the query as far as it matters to the rows selected.
-/

namespace PagedFilter.Table

namespace Sql

/-! ### Groups without clauses -/

/-- A text in which no parenthesis is closed where it was opened, nor around another such text. -/
structure Filled (t : List Char) : Prop where
  nonempty : t ≠ []
  head : t.head? ≠ some ')'
  last : t.getLast? ≠ some '('
  chain : t.IsChain fun a b => ¬(a = '(' ∧ b = ')')

theorem Filled.no_empty_pair {t : List Char} (h : Filled t) : ¬['(', ')'] <:+: t := by
  rintro ⟨front, behind, rfl⟩
  have hpair := h.chain.left_of_append.right_of_append
  rw [List.isChain_cons_cons] at hpair
  exact hpair.1 ⟨rfl, rfl⟩

theorem Filled.append {t u : List Char} (h : Filled t) (h' : Filled u) : Filled (t ++ u) := by
  refine ⟨fun hnil => h.nonempty (List.append_eq_nil_iff.1 hnil).1, ?_, ?_, ?_⟩
  · rw [List.head?_append_of_ne_nil _ h.nonempty]
    exact h.head
  · rw [List.getLast?_append_of_ne_nil _ h'.nonempty]
    exact h'.last
  · refine h.chain.append h'.chain ?_
    rintro a ha b _ ⟨rfl, _⟩
    exact h.last ha

theorem filled_of_not_mem {t : List Char} (hne : t ≠ []) (hopen : '(' ∉ t) (hclose : ')' ∉ t) :
    Filled t := by
  refine ⟨hne, ?_, ?_, ?_⟩
  · exact fun h => hclose (List.mem_of_head? h)
  · exact fun h => hopen (List.mem_of_getLast? h)
  · have hall : t.Pairwise fun a b => ¬(a = '(' ∧ b = ')') := by
      refine List.pairwise_of_forall_mem_list ?_
      rintro a ha b _ ⟨rfl, _⟩
      exact hopen ha
    exact hall.isChain

theorem Filled.enclosed {t : List Char} (h : Filled t) : Filled ('(' :: (t ++ [')'])) := by
  refine ⟨List.cons_ne_nil _ _, by simp, ?_, ?_⟩
  · rw [← List.cons_append, List.getLast?_concat]
    decide
  · refine List.IsChain.cons ?_ ?_
    · refine h.chain.append (List.isChain_singleton _) ?_
      rintro a ha b _ ⟨rfl, _⟩
      exact h.last ha
    · rintro b hb ⟨_, rfl⟩
      rw [List.head?_append_of_ne_nil _ h.nonempty] at hb
      exact h.head hb

theorem not_mem_points {c : Char} (hc : c ≠ '.') (name : String) : c ∉ points name := by
  intro h
  have hpoint := (List.mem_filter.1 h).2
  exact hc (by simpa using hpoint)

/-- A name and what stands behind it without parentheses. -/
theorem filled_points (name : String) {t : List Char} (hne : t ≠ []) (hopen : '(' ∉ t)
    (hclose : ')' ∉ t) : Filled (points name ++ t) := by
  apply filled_of_not_mem
  · exact fun hnil => hne (List.append_eq_nil_iff.1 hnil).2
  · exact fun h => (List.mem_append.1 h).elim (not_mem_points (by decide) name) hopen
  · exact fun h => (List.mem_append.1 h).elim (not_mem_points (by decide) name) hclose

/-- A test among values, or the constant that stands for it if there are none. -/
theorem filled_among {constant test : List Char} (hconstant : Filled constant) (hne : test ≠ [])
    (hopen : '(' ∉ test) (hclose : ')' ∉ test) (column : String) (values : List Value) :
    Filled (if values.isEmpty then constant
      else points column ++ (test ++ '(' :: ((placeholders values).toList ++ [')']))) := by
  cases values with
  | nil => exact hconstant
  | cons v rest =>
    have hmarks : Filled (placeholders (v :: rest)).toList := by
      apply filled_of_not_mem
      · cases rest <;> simp [placeholders, commaJoin]
      · exact not_mem_placeholders (by decide) (by decide) (by decide) _
      · exact not_mem_placeholders (by decide) (by decide) (by decide) _
    rw [List.isEmpty_cons, if_neg (by decide), ← List.append_assoc]
    exact (filled_points column hne hopen hclose).append hmarks.enclosed

mutual

theorem filled_write : (c : Clause) → c.IsPruned → Filled (write points c)
  | .compare column c v => by
    intro _
    rw [write]
    exact filled_points column (by cases c <;> decide) (by cases c <;> decide) (by cases c <;> decide)
  | .isIn column values => by
    intro _
    rw [write]
    have hconstant : Filled "1 = 0".toList :=
      filled_of_not_mem (by decide) (by decide) (by decide)
    exact filled_among hconstant (by decide) (by decide) (by decide) column values
  | .notIn column values => by
    intro _
    rw [write]
    have hconstant : Filled "1 = 1".toList :=
      filled_of_not_mem (by decide) (by decide) (by decide)
    exact filled_among hconstant (by decide) (by decide) (by decide) column values
  | .isNull column => by
    intro _
    rw [write]
    exact filled_points column (by decide) (by decide) (by decide)
  | .isNotNull column => by
    intro _
    rw [write]
    exact filled_points column (by decide) (by decide) (by decide)
  | .never => by
    intro _
    rw [write]
    exact filled_of_not_mem (by decide) (by decide) (by decide)
  | .group joined clauses => by
    intro h
    rw [Clause.IsPruned] at h
    rw [write]
    exact (filled_writeList clauses h.1 h.2).enclosed

theorem filled_writeList : (cs : List Clause) → cs ≠ [] → Clause.ArePruned cs →
    Filled (writeList points cs)
  | [] => fun hne => absurd rfl hne
  | c :: rest => by
    intro _ h
    rw [Clause.ArePruned] at h
    rw [writeList]
    exact filled_append_writeRest rest h.2 (filled_write c h.1)

theorem filled_append_writeRest : (cs : List Clause) → Clause.ArePruned cs → ∀ {t : List Char},
    Filled t → Filled (t ++ writeRest points cs)
  | [] => by
    intro _ t ht
    rw [writeRest, List.append_nil]
    exact ht
  | c :: rest => by
    intro h t ht
    rw [Clause.ArePruned] at h
    have hjoin : Filled (" " ++ c.connective.keyword ++ " ").toList := by
      cases c.connective <;> exact filled_of_not_mem (by decide) (by decide) (by decide)
    rw [writeRest, ← List.append_assoc, ← List.append_assoc]
    exact filled_append_writeRest rest h.2 ((ht.append hjoin).append (filled_write c h.1))

end

theorem Filled.append_points {t : List Char} (h : Filled t) (name : String) :
    Filled (t ++ points name) := by
  by_cases hnil : points name = []
  · rw [hnil, List.append_nil]
    exact h
  · exact h.append (filled_of_not_mem hnil (not_mem_points (by decide) name)
      (not_mem_points (by decide) name))

/-- Without empty groups the text of a query shows none, whatever its names are. -/
theorem filled_writeQuery {q : Query} (h : Clause.ArePruned q.clauses) :
    Filled (writeQuery points q) := by
  have hselect : Filled "select count(*) from ".toList :=
    ⟨by decide, by decide, by decide, by decide⟩
  unfold writeQuery
  rw [← List.append_assoc]
  cases hclauses : q.clauses with
  | nil =>
    rw [List.isEmpty_nil, if_pos rfl, List.append_nil]
    exact hselect.append_points q.table
  | cons c rest =>
    have hwhere : Filled " where ".toList :=
      filled_of_not_mem (by decide) (by decide) (by decide)
    rw [hclauses] at h
    rw [List.isEmpty_cons, if_neg (by decide)]
    exact (hselect.append_points q.table).append
      (hwhere.append (filled_writeList (c :: rest) (List.cons_ne_nil c rest) h))

end Sql

/-! ### Queries -/

/-- The queries that come about step by step from that of a table. -/
inductive Query.IsBuilt : Query → Prop where
  | ofTable (name : String) : IsBuilt (Query.ofTable name)
  | filter {q : Query} (clauses : List Clause) : IsBuilt q → IsBuilt (q.filter clauses)
  | orderBy {q : Query} (column : String) (d : Direction) : IsBuilt q → IsBuilt (q.orderBy column d)
  | withLimit {q : Query} (n : Nat) : IsBuilt q → IsBuilt (q.withLimit n)
  | withOffset {q : Query} (n : Nat) : IsBuilt q → IsBuilt (q.withOffset n)

theorem Query.IsBuilt.arePruned {q : Query} (h : q.IsBuilt) : Clause.ArePruned q.clauses := by
  induction h with
  | ofTable name => trivial
  | @filter q clauses _ ih =>
    rw [Clause.arePruned_iff] at ih ⊢
    intro c hc
    rcases List.mem_append.1 hc with hc | hc
    · exact ih c hc
    · exact (Clause.arePruned_iff _).1 (Clause.arePruned_prune clauses) c hc
  | orderBy _ _ _ ih => exact ih
  | withLimit _ _ ih => exact ih
  | withOffset _ _ ih => exact ih

/-- The text and the operands of a count are read back to the table of the query and its clauses, up to
the connectives in front of lists and tests among no values; two queries with the same ones select the
same rows of every table. A query that was built shows no empty group, and outside of quotes nothing
depends on its names but how many points they have. -/
theorem count_sql_is_uniquely_decodable :
    (∀ q : Query, Sql.decode? q.countSql q.countBindings =
      some (q.table, Clause.shownList q.clauses)) ∧
    (∀ q₁ q₂ : Query, q₁.countSql = q₂.countSql → q₁.countBindings = q₂.countBindings →
      q₁.table = q₂.table ∧ Clause.shownList q₁.clauses = Clause.shownList q₂.clauses ∧
        ∀ table : Table, table.select q₁ = table.select q₂) ∧
    (∀ q : Query, q.IsBuilt → Clause.ArePruned q.clauses ∧
      ¬['(', ')'] <:+: Sql.outside false q.countSql.toList) ∧
    ∀ (q : Query) (f : String → String), (∀ name, Sql.points (f name) = Sql.points name) →
      Sql.outside false (q.rename f).countSql.toList = Sql.outside false q.countSql.toList := by
  refine ⟨Sql.decode?_countSql, ?_, ?_, ?_⟩
  · intro q₁ q₂ htext hbindings
    have hdecoded := Sql.decode?_countSql q₁
    rw [htext, hbindings, Sql.decode?_countSql q₂, Option.some.injEq, Prod.mk.injEq] at hdecoded
    exact ⟨hdecoded.1.symm, hdecoded.2.symm, select_eq_of_shownList hdecoded.2.symm⟩
  · intro q hq
    refine ⟨hq.arePruned, ?_⟩
    rw [Sql.outside_countSql]
    exact (Sql.filled_writeQuery hq.arePruned).no_empty_pair
  · intro q f hf
    exact Sql.outside_countSql_rename hf q

/-- A name with a quote in it, and two queries that differ in nothing but a connective in front and in
how they say that nothing is met. -/
theorem one_text_of_two_queries :
    let other : Clause := .compare "b\" = 1 or \"a.c" .eq (.int 7)
    let q₁ := (Query.ofTable "t").filter [.group .or [.isIn "a" [], .group .or [other]]]
    let q₂ := (Query.ofTable "t").filter [.group .and [.never, .group .or [other]]]
    q₁.countSql = "select count(*) from \"t\" where (1 = 0 or (\"b\"\" = 1 or \"\"a\".\"c\" = ?))" ∧
      ∀ table : Table, table.select q₁ = table.select q₂ := by
  intro other q₁ q₂
  have htext : q₁.countSql =
      "select count(*) from \"t\" where (1 = 0 or (\"b\"\" = 1 or \"\"a\".\"c\" = ?))" := by
    decide +kernel
  have hsame : q₁.countSql = q₂.countSql := by decide +kernel
  have hdecodable := count_sql_is_uniquely_decodable.2.1 q₁ q₂ hsame rfl
  exact ⟨htext, hdecodable.2.2⟩

end PagedFilter.Table
