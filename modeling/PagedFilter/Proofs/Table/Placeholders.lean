import PagedFilter.Proofs.Table.Quoting

/-!
Placeholders and their operands. Put in the place of the placeholders, in order, the operands of a query
make the text in which each stands where it belongs: behind its comparison, among the values of its
test, and the bounds of the window last.
-/

namespace PagedFilter.Table.Sql

/-! ### Filling placeholders -/

section Fill

variable (lit : Value → String)

/-- Puts operands in the place of the placeholders outside of quotes, in order, from a place within
quotes or not; none if there are too few of them or too many. -/
def fill? : Bool → List Char → List Value → Option (List Char)
  | _, [], operands => if operands.isEmpty then some [] else none
  | inside, c :: s, operands =>
    if c = '"' then (fill? (!inside) s operands).map (c :: ·)
    else if c = '?' ∧ inside = false then
      operands.head?.bind fun v => (fill? false s operands.tail).map ((lit v).toList ++ ·)
    else (fill? inside s operands).map (c :: ·)

/-- What can be filled has a placeholder for every operand. -/
theorem count_of_fill? {inside : Bool} {t : List Char} {operands : List Value} {u : List Char}
    (h : fill? lit inside t operands = some u) : (outside inside t).count '?' = operands.length := by
  induction t generalizing inside operands u with
  | nil =>
    cases operands with
    | nil => rfl
    | cons v rest => simp [fill?] at h
  | cons c s ih =>
    rw [fill?] at h
    rw [outside]
    split at h
    · next hquote =>
      obtain ⟨_, hs, _⟩ := Option.map_eq_some_iff.1 h
      rw [if_pos hquote]
      exact ih hs
    · next hquote =>
      rw [if_neg hquote]
      split at h
      · next hmark =>
        obtain ⟨rfl, rfl⟩ := hmark
        cases operands with
        | nil => simp at h
        | cons v rest =>
          rw [List.head?_cons, Option.bind_some, List.tail_cons] at h
          obtain ⟨_, hs, _⟩ := Option.map_eq_some_iff.1 h
          rw [if_neg Bool.false_ne_true, List.count_cons_self, ih hs, List.length_cons]
      · next hmark =>
        obtain ⟨_, hs, _⟩ := Option.map_eq_some_iff.1 h
        have hrest := ih hs
        cases inside with
        | true => exact hrest
        | false =>
          have hc : c ≠ '?' := fun hc => hmark ⟨hc, rfl⟩
          rw [if_neg Bool.false_ne_true, List.count_cons_of_ne hc]
          exact hrest

/-- A text that takes up operands and becomes another one, whatever comes behind it. -/
def Fills (t : String) (operands : List Value) (u : String) : Prop :=
  ∀ s vs, fill? lit false (t.toList ++ s) (operands ++ vs) =
    (fill? lit false s vs).map (u.toList ++ ·)

variable {lit}

theorem Fills.append {t t' u u' : String} {operands operands' : List Value}
    (h : Fills lit t operands u) (h' : Fills lit t' operands' u') :
    Fills lit (t ++ t') (operands ++ operands') (u ++ u') := by
  intro s vs
  rw [String.toList_append, String.toList_append, List.append_assoc, List.append_assoc, h, h',
    Option.map_map]
  congr 1
  funext rest
  exact (List.append_assoc _ _ _).symm

theorem Fills.fill?_eq {t u : String} {operands : List Value} (h : Fills lit t operands u) :
    fill? lit false t.toList operands = some u.toList := by
  have hend := h [] []
  rw [List.append_nil, List.append_nil] at hend
  rw [hend, fill?, List.isEmpty_nil, if_pos rfl, Option.map_some, List.append_nil]

theorem fills_of_not_mem {t : String} (hquote : '"' ∉ t.toList) (hmark : '?' ∉ t.toList) :
    Fills lit t [] t := by
  have hplain : ∀ cs : List Char, '"' ∉ cs → '?' ∉ cs → ∀ s vs,
      fill? lit false (cs ++ s) vs = (fill? lit false s vs).map (cs ++ ·) := by
    intro cs
    induction cs with
    | nil => intro _ _ s vs; simp
    | cons c rest ih =>
      intro hquote hmark s vs
      obtain ⟨hc, hrest⟩ := not_or.1 (mt List.mem_cons.2 hquote)
      obtain ⟨hcm, hrestm⟩ := not_or.1 (mt List.mem_cons.2 hmark)
      rw [List.cons_append, fill?, if_neg (Ne.symm hc), if_neg fun h => hcm h.1.symm,
        ih hrest hrestm, Option.map_map]
      rfl
  intro s vs
  exact hplain t.toList hquote hmark s vs

theorem fills_mark (v : Value) : Fills lit "?" [v] (lit v) := by
  intro s vs
  simp [fill?]

/-- A quoted name takes up no operand, whatever it is. -/
theorem fills_quoteName (name : String) : Fills lit (quoteName name) [] (quoteName name) := by
  have hinside : ∀ (cs s : List Char) (vs : List Value),
      fill? lit true (cs.flatMap quoteChar ++ '"' :: s) vs =
        (fill? lit false s vs).map (cs.flatMap quoteChar ++ '"' :: ·) := by
    intro cs s vs
    induction cs with
    | nil => rfl
    | cons c rest ih =>
      rw [List.flatMap_cons, List.append_assoc]
      by_cases hquote : c = '"'
      · subst hquote
        have hdoubled : quoteChar '"' = ['"', '"'] := rfl
        rw [hdoubled]
        simp [fill?, ih, Function.comp_def]
      · by_cases hpoint : c = '.'
        · subst hpoint
          have hclosed : quoteChar '.' = ['"', '.', '"'] := rfl
          rw [hclosed]
          simp [fill?, ih, Function.comp_def]
        · rw [quoteChar_of_ne hquote hpoint]
          simp [fill?, hquote, ih, Function.comp_def]
  intro s vs
  rw [toList_quoteName, List.cons_append, List.append_assoc, List.singleton_append, fill?,
    if_pos rfl, List.nil_append]
  refine (congrArg (Option.map _) (hinside name.toList s vs)).trans ?_
  rw [Option.map_map]
  congr 1
  funext rest
  simp

end Fill

/-! ### Operands in their places -/

section Spell

variable (lit : Value → String)

mutual

/-- The text of a clause with every operand written out where it belongs. -/
def spell : Clause → String
  | .compare column c operand => quoteName column ++ " " ++ c.symbol ++ (" " ++ lit operand)
  | .isIn column values =>
    if values.isEmpty then "1 = 0"
    else quoteName column ++ " in (" ++ commaJoin (values.map lit) ++ ")"
  | .notIn column values =>
    if values.isEmpty then "1 = 1"
    else quoteName column ++ " not in (" ++ commaJoin (values.map lit) ++ ")"
  | .isNull column => quoteName column ++ " is null"
  | .isNotNull column => quoteName column ++ " is not null"
  | .never => "1 = 0"
  | .group _ clauses => "(" ++ spellList clauses ++ ")"

def spellList : List Clause → String
  | [] => ""
  | c :: rest => spell c ++ spellRest rest

def spellRest : List Clause → String
  | [] => ""
  | c :: rest => " " ++ c.connective.keyword ++ " " ++ spell c ++ spellRest rest

end

def spellWhere (clauses : List Clause) : String :=
  if clauses.isEmpty then "" else " where " ++ spellList lit clauses

end Spell

end Sql

namespace Query

variable (lit : Value → String)

/-- The SQL of a query with its operands written out: those of its clauses, the limit and the offset. -/
def spelled (q : Query) : String :=
  "select * from " ++ Sql.quoteName q.table ++ Sql.spellWhere lit q.clauses ++
    Sql.orderText q.order ++ (q.limit.elim "" fun n => " limit " ++ lit (boundValue n)) ++
    (q.offset.elim "" fun n => " offset " ++ lit (boundValue n))

def spelledCount (q : Query) : String :=
  "select count(*) from " ++ Sql.quoteName q.table ++ Sql.spellWhere lit q.clauses

end Query

namespace Sql

variable {lit : Value → String}

/-! ### What queries take up -/

theorem fills_placeholders (values : List Value) :
    Fills lit (placeholders values) values (commaJoin (values.map lit)) := by
  have hcomma : Fills lit ", " [] ", " := fills_of_not_mem (by decide) (by decide)
  induction values with
  | nil => exact fills_of_not_mem (by decide) (by decide)
  | cons v rest ih =>
    cases rest with
    | nil => exact fills_mark v
    | cons w rest => exact ((fills_mark v).append hcomma).append ih

/-- A test among values, or the constant that stands for it if there are none. -/
theorem fills_among {constant test : String} (hconstant : Fills lit constant [] constant)
    (htest : Fills lit test [] test) (column : String) (values : List Value) :
    Fills lit
      (if values.isEmpty then constant else quoteName column ++ test ++ placeholders values ++ ")")
      values
      (if values.isEmpty then constant
        else quoteName column ++ test ++ commaJoin (values.map lit) ++ ")") := by
  have hclose : Fills lit ")" [] ")" := fills_of_not_mem (by decide) (by decide)
  cases values with
  | nil => exact hconstant
  | cons v rest =>
    have hmarks : Fills lit (placeholders (v :: rest)) (v :: rest)
        (commaJoin ((v :: rest).map lit)) := fills_placeholders (v :: rest)
    have h := (((fills_quoteName column).append htest).append hmarks).append hclose
    rw [List.append_nil] at h
    exact h

mutual

theorem fills_text : (c : Clause) → Fills lit (text c) (bindings c) (spell lit c)
  | .compare column c v => by
    have hspace : Fills lit " " [] " " := fills_of_not_mem (by decide) (by decide)
    have hsymbol : Fills lit c.symbol [] c.symbol := by
      cases c <;> exact fills_of_not_mem (by decide) (by decide)
    rw [text, bindings, spell]
    exact (((fills_quoteName column).append hspace).append hsymbol).append
      (hspace.append (fills_mark v))
  | .isIn column values => by
    rw [text, bindings, spell]
    exact fills_among (fills_of_not_mem (by decide) (by decide))
      (fills_of_not_mem (by decide) (by decide)) column values
  | .notIn column values => by
    rw [text, bindings, spell]
    exact fills_among (fills_of_not_mem (by decide) (by decide))
      (fills_of_not_mem (by decide) (by decide)) column values
  | .isNull column => by
    rw [text, spell]
    exact (fills_quoteName column).append (fills_of_not_mem (by decide) (by decide))
  | .isNotNull column => by
    rw [text, spell]
    exact (fills_quoteName column).append (fills_of_not_mem (by decide) (by decide))
  | .never => by
    rw [text, spell]
    exact fills_of_not_mem (by decide) (by decide)
  | .group joined clauses => by
    have hopen : Fills lit "(" [] "(" := fills_of_not_mem (by decide) (by decide)
    have hclose : Fills lit ")" [] ")" := fills_of_not_mem (by decide) (by decide)
    have h := (hopen.append (fills_textOfList clauses)).append hclose
    rw [List.append_nil] at h
    rw [text, bindings, spell]
    exact h

theorem fills_textOfList : (cs : List Clause) →
    Fills lit (textOfList cs) (bindingsOfList cs) (spellList lit cs)
  | [] => by
    rw [textOfList, bindingsOfList, spellList]
    exact fills_of_not_mem (by decide) (by decide)
  | c :: rest => by
    rw [textOfList, bindingsOfList, spellList]
    exact (fills_text c).append (fills_textOfRest rest)

theorem fills_textOfRest : (cs : List Clause) →
    Fills lit (textOfRest cs) (bindingsOfList cs) (spellRest lit cs)
  | [] => by
    rw [textOfRest, bindingsOfList, spellRest]
    exact fills_of_not_mem (by decide) (by decide)
  | c :: rest => by
    have hjoin : Fills lit (" " ++ c.connective.keyword ++ " ") []
        (" " ++ c.connective.keyword ++ " ") := by
      cases c.connective <;> exact fills_of_not_mem (by decide) (by decide)
    rw [textOfRest, bindingsOfList, spellRest]
    exact (hjoin.append (fills_text c)).append (fills_textOfRest rest)

end

theorem fills_whereText (cs : List Clause) :
    Fills lit (whereText cs) (bindingsOfList cs) (spellWhere lit cs) := by
  cases cs with
  | nil => exact fills_of_not_mem (by decide) (by decide)
  | cons c rest =>
    have hwhere : Fills lit " where " [] " where " := fills_of_not_mem (by decide) (by decide)
    exact hwhere.append (fills_textOfList (c :: rest))

theorem fills_commaJoin {texts : List String} (h : ∀ t ∈ texts, Fills lit t [] t) :
    Fills lit (commaJoin texts) [] (commaJoin texts) := by
  have hcomma : Fills lit ", " [] ", " := fills_of_not_mem (by decide) (by decide)
  induction texts with
  | nil => exact fills_of_not_mem (by decide) (by decide)
  | cons t rest ih =>
    obtain ⟨ht, hrest⟩ := List.forall_mem_cons.1 h
    cases rest with
    | nil => exact ht
    | cons u rest => exact (ht.append hcomma).append (ih hrest)

/-- The sort of a query takes up no operand. -/
theorem fills_orderText (keys : List SortKey) :
    Fills lit (orderText keys) [] (orderText keys) := by
  have horder : Fills lit " order by " [] " order by " := fills_of_not_mem (by decide) (by decide)
  have hspace : Fills lit " " [] " " := fills_of_not_mem (by decide) (by decide)
  have hkeys : ∀ t ∈ keys.map fun k => quoteName k.1 ++ " " ++ k.2.keyword, Fills lit t [] t := by
    intro t ht
    obtain ⟨⟨column, d⟩, _, rfl⟩ := List.mem_map.1 ht
    have hdirection : Fills lit d.keyword [] d.keyword := by
      cases d <;> exact fills_of_not_mem (by decide) (by decide)
    exact ((fills_quoteName column).append hspace).append hdirection
  rw [orderText]
  split
  · exact fills_of_not_mem (by decide) (by decide)
  · exact horder.append (fills_commaJoin hkeys)

/-- A bound of the window behind its keyword, if there is one. -/
theorem fills_bound {front : String} (h : Fills lit front [] front) (bound : Option Nat) :
    Fills lit (if bound.isSome then front ++ "?" else "") (bound.map Query.boundValue).toList
      (bound.elim "" fun n => front ++ lit (Query.boundValue n)) := by
  cases bound with
  | none => exact fills_of_not_mem (t := "") (by decide) (by decide)
  | some n => exact h.append (fills_mark (Query.boundValue n))

theorem fills_countSql (q : Query) : Fills lit q.countSql q.countBindings (q.spelledCount lit) := by
  have hselect : Fills lit "select count(*) from " [] "select count(*) from " :=
    fills_of_not_mem (by decide) (by decide)
  exact (hselect.append (fills_quoteName q.table)).append (fills_whereText q.clauses)

theorem fills_sql (q : Query) : Fills lit q.sql q.sqlBindings (q.spelled lit) := by
  have hselect : Fills lit "select * from " [] "select * from " :=
    fills_of_not_mem (by decide) (by decide)
  have hrows := ((hselect.append (fills_quoteName q.table)).append
    (fills_whereText q.clauses)).append (fills_orderText q.order)
  have hlimit : Fills lit " limit " [] " limit " := fills_of_not_mem (by decide) (by decide)
  have hoffset : Fills lit " offset " [] " offset " := fills_of_not_mem (by decide) (by decide)
  have h := (hrows.append (fills_bound hlimit q.limit)).append (fills_bound hoffset q.offset)
  rw [List.append_nil] at h
  exact h

end Sql

end PagedFilter.Table
