import Mathlib.Data.List.Basic
import PagedFilter.Page.Cursor
import PagedFilter.Proofs.Table.Columns

/-!
The value at the edge of a page and the value that its row is sorted by. Both go by the name of the sort
field, but follow a name with points differently: documents are sorted by what the whole path leads to,
tables by the cell behind the first point, and an edge falls back to the last name. So they are one
value under names without points, and beyond these only in rows that hold nothing on the way.
-/

namespace PagedFilter

/-! ### Names with points -/

theorem Text.exists_segments_append (mark : Char) (before rest : List Char) :
    ∃ s ss, segments mark (before ++ mark :: rest) = s :: ss ++ segments mark rest := by
  induction before with
  | nil => exact ⟨[], [], by simp [segments]⟩
  | cons c cs ih =>
    obtain ⟨s, ss, h⟩ := ih
    by_cases hc : c = mark
    · exact ⟨[], s :: ss, by rw [List.cons_append, segments, if_pos hc, h]; rfl⟩
    · exact ⟨c :: s, ss, by rw [List.cons_append, segments, if_neg hc, h]; rfl⟩

theorem Text.not_mem_of_mem_segments {mark : Char} {cs s : List Char} (h : s ∈ segments mark cs) :
    mark ∉ s := by
  induction cs generalizing s with
  | nil => simp_all [segments]
  | cons c cs ih =>
    rw [segments] at h
    split at h
    · rcases List.mem_cons.1 h with rfl | h
      · exact List.not_mem_nil
      · exact ih h
    · next hc =>
      cases hss : segments mark cs with
      | nil => exact absurd hss (segments_ne_nil mark cs)
      | cons t ts =>
        rw [hss] at h ih
        rcases List.mem_cons.1 h with rfl | h
        · rw [List.mem_cons, not_or]
          exact ⟨Ne.symm hc, ih List.mem_cons_self⟩
        · exact ih (List.mem_cons_of_mem t h)

theorem count_append_point (front rest : String) : (front ++ "." ++ rest).toList.count '.' =
    front.toList.count '.' + rest.toList.count '.' + 1 := by
  rw [toList_append_point, List.count_append, List.count_cons_self, Nat.add_assoc]

namespace Page

theorem lastSegment_append (front rest : String) :
    lastSegment (front ++ "." ++ rest) = lastSegment rest := by
  obtain ⟨s, ss, hsegments⟩ := Text.exists_segments_append '.' front.toList rest.toList
  have hlast := List.getLast?_eq_some_getLast (Text.segments_ne_nil '.' rest.toList)
  rw [lastSegment, toList_append_point, hsegments, lastSegment, List.getLastD_eq_getLast?,
    List.getLastD_eq_getLast?, List.getLast?_append, hlast, Option.some_or]

theorem not_mem_lastSegment (name : String) : '.' ∉ (lastSegment name).toList := by
  have hlast := List.getLast?_eq_some_getLast (Text.segments_ne_nil '.' name.toList)
  rw [lastSegment, List.getLastD_eq_getLast?, hlast, Option.getD_some, String.toList_ofList]
  exact Text.not_mem_of_mem_segments (List.getLast_mem _)

theorem lastSegment_ne_of_mem (name : String) {other : String} (h : '.' ∈ other.toList) :
    lastSegment name ≠ other := by
  intro heq
  rw [← heq] at h
  exact not_mem_lastSegment name h

end Page

/-! ### Where names lead -/

theorem Value.lookup_append (row : Row) {head : String} (h : '.' ∉ head.toList) (rest : String) :
    lookup row (head ++ "." ++ rest) =
      (Fields.find? row (head ++ "." ++ rest)).or ((Fields.find? row head).bind (path? · rest)) := by
  rw [lookup, toList_append_point, Text.divide?_append h]
  cases Fields.find? row (head ++ "." ++ rest) <;> simp

theorem Value.path?_int (n : Int64) (path : String) : path? (int n) path = none := by
  rw [path?]
  cases hs : Text.segments '.' path.toList with
  | nil => exact absurd hs (Text.segments_ne_nil _ _)
  | cons s ss => rfl

theorem Value.find?_eq_none_of_lookup {row : Row} {name : String} (h : lookup row name = none) :
    Fields.find? row name = none := by
  rw [lookup] at h
  cases hfind : Fields.find? row name with
  | none => rfl
  | some v => simp [hfind] at h

/-- A row with one integer leads nowhere but under its name. -/
theorem Value.lookup_lone_int {key name : String} (hne : key ≠ name) (n : Int64) :
    lookup [(key, int n)] name = none := by
  by_cases h : '.' ∈ name.toList
  · obtain ⟨head, rest, hhead, rfl⟩ := exists_eq_append_of_mem h
    rw [lookup_append _ hhead, Fields.find?, if_neg hne]
    by_cases hkey : key = head
    · simp [Fields.find?, hkey, path?_int]
    · simp [Fields.find?, hkey]
  · rw [lookup_of_not_mem _ _ h]
    simp [Fields.find?, hne]

namespace Page

theorem sortValue_eq_or (row : Row) (field : String) : sortValue row field =
    (Value.lookup row field).or (Fields.find? row (lastSegment field)) := by
  rw [sortValue]
  cases Value.lookup row field <;> rfl

theorem sortValue_lone_int (name : String) (n : Int64) :
    sortValue [(lastSegment name, .int n)] name = some (.int n) := by
  by_cases h : '.' ∈ name.toList
  · rw [sortValue_eq_or, Value.lookup_lone_int (lastSegment_ne_of_mem name h)]
    simp [Fields.find?]
  · rw [sortValue_of_not_mem _ h, lastSegment_of_not_mem h]
    simp [Fields.find?]

theorem sortValue_eq_lookup_iff (row : Row) (field : String) :
    sortValue row field = Value.lookup row field ↔
      (Value.lookup row field = none → Fields.find? row (lastSegment field) = none) := by
  rw [sortValue_eq_or]
  cases Value.lookup row field <;> simp

/-- Documents are sorted by what their edges hold exactly under names without points. -/
theorem forall_sortValue_eq_lookup_iff (field : String) :
    (∀ row, sortValue row field = Value.lookup row field) ↔ '.' ∉ field.toList := by
  constructor
  · intro hagree h
    have hlone := hagree [(lastSegment field, .int 1)]
    rw [sortValue_lone_int, Value.lookup_lone_int (lastSegment_ne_of_mem field h)] at hlone
    contradiction
  · intro h row
    rw [sortValue_of_not_mem row h, Value.lookup_of_not_mem row field h]

/-! ### Columns of tables -/

section Tables

variable (ctx : Table.Context) (field : String) (table : Option String)

theorem qualifiedName_eq_or : ctx.qualifiedName field table = ctx.columnName field ∨
    '.' ∉ (ctx.columnName field).toList ∧
      ∃ t, ctx.qualifiedName field table = t ++ "." ++ ctx.columnName field := by
  rw [Table.Context.qualifiedName]
  split
  · next t _ =>
    split
    · exact .inl rfl
    · next h => exact .inr ⟨by simpa using h, t, rfl⟩
  · exact .inl rfl

theorem lastSegment_qualifiedName :
    lastSegment (ctx.qualifiedName field table) = lastSegment (ctx.columnName field) := by
  rcases qualifiedName_eq_or ctx field table with h | ⟨_, t, h⟩
  · rw [h]
  · rw [h, lastSegment_append]

/-- A name with two points or more is cut at the first one, and so misses the cell of its last name. -/
theorem resolve_lone_int {name : String} (h : 2 ≤ name.toList.count '.') (n : Int64) :
    Table.resolve [(lastSegment name, .int n)] name = none := by
  obtain ⟨head, rest, hhead, hname⟩ :=
    exists_eq_append_of_mem (List.count_pos_iff.1 (Nat.lt_of_lt_of_le Nat.zero_lt_two h))
  have hrest : '.' ∈ rest.toList := by
    rw [hname, count_append_point, List.count_eq_zero.2 hhead] at h
    exact List.count_pos_iff.1 (by omega)
  have hlone : ∀ other : String, '.' ∈ other.toList →
      Fields.find? [(lastSegment name, Value.int n)] other = none := by
    intro other hother
    rw [Fields.find?, if_neg (lastSegment_ne_of_mem name hother)]
    rfl
  have hresolve := Table.resolve_append [(lastSegment name, .int n)] hhead rest
  rw [← hname, hlone rest hrest, hlone name (hname ▸ mem_append_point head rest)] at hresolve
  exact hresolve

theorem sortValue_eq_resolve {row : Row}
    (hcount : (ctx.qualifiedName field table).toList.count '.' ≤ 1)
    (hrow : '.' ∈ (ctx.qualifiedName field table).toList →
      Value.lookup row (ctx.qualifiedName field table) = none) :
    sortValue row (ctx.columnName field) =
      Table.resolve row (ctx.qualifiedName field table) := by
  rcases qualifiedName_eq_or ctx field table with hname | ⟨hcolumn, t, hname⟩
  · rw [hname] at hcount hrow ⊢
    by_cases h : '.' ∈ (ctx.columnName field).toList
    · have hlookup := hrow h
      have hfind := Value.find?_eq_none_of_lookup hlookup
      obtain ⟨head, rest, hhead, hsplit⟩ := exists_eq_append_of_mem h
      rw [hsplit] at hcount hlookup hfind ⊢
      have hrest : '.' ∉ rest.toList := by
        rw [count_append_point] at hcount
        exact List.count_eq_zero.1 (by omega)
      rw [sortValue_eq_or, hlookup, lastSegment_append, lastSegment_of_not_mem hrest,
        Table.resolve_append row hhead, hfind]
    · rw [sortValue_of_not_mem row h, Table.resolve_of_not_mem row h]
  · have hfind := Value.find?_eq_none_of_lookup (hrow (hname ▸ mem_append_point t _))
    rw [hname] at hcount hfind ⊢
    have ht : '.' ∉ t.toList := by
      rw [count_append_point] at hcount
      exact List.count_eq_zero.1 (by omega)
    rw [sortValue_of_not_mem row hcolumn, Table.resolve_append row ht, hfind, Option.none_or]

/-- In rows where the qualified name itself leads nowhere, edges hold what the column holds exactly
under names with at most one point. -/
theorem forall_sortValue_eq_resolve_iff_count :
    (∀ row, ('.' ∈ (ctx.qualifiedName field table).toList →
        Value.lookup row (ctx.qualifiedName field table) = none) →
      sortValue row (ctx.columnName field) =
        Table.resolve row (ctx.qualifiedName field table)) ↔
      (ctx.qualifiedName field table).toList.count '.' ≤ 1 := by
  constructor
  · intro hagree
    refine Nat.le_of_not_lt fun hcount => ?_
    have hlone := hagree [(lastSegment (ctx.qualifiedName field table), .int 1)]
      fun hmem => Value.lookup_lone_int (lastSegment_ne_of_mem _ hmem) 1
    rw [resolve_lone_int hcount, lastSegment_qualifiedName,
      sortValue_lone_int] at hlone
    contradiction
  · intro hcount row hrow
    exact sortValue_eq_resolve ctx field table hcount hrow

/-- A map under the head of a dotted name hides the missing cell under the rest of it. -/
theorem sortValue_ne_resolve_of_split {head rest : String} (hhead : '.' ∉ head.toList)
    (hrest : '.' ∉ rest.toList) : sortValue [(head, .map [(rest, .int 1)])] (head ++ "." ++ rest) ≠
      Table.resolve [(head, .map [(rest, .int 1)])] (head ++ "." ++ rest) := by
  have hname : head ≠ head ++ "." ++ rest := by
    intro heq
    rw [heq] at hhead
    exact hhead (mem_append_point head rest)
  have hfind : Fields.find? [(head, Value.map [(rest, .int 1)])] (head ++ "." ++ rest) = none := by
    simp [Fields.find?, hname]
  have hpath : Value.path? (.map [(rest, .int 1)]) rest = some (.int 1) := by
    rw [Value.path?_of_not_mem _ _ hrest]
    simp [Fields.find?]
  have hlookup : Value.lookup [(head, .map [(rest, .int 1)])] (head ++ "." ++ rest) =
      some (.int 1) := by
    rw [Value.lookup_append _ hhead, hfind]
    simpa [Fields.find?] using hpath
  rw [sortValue_of_lookup hlookup, Table.resolve_append _ hhead, hfind, Option.none_or]
  by_cases hkey : head = rest
  · simp [Fields.find?, hkey]
  · simp [Fields.find?, hkey]

/-- A cell under the qualified name hides the missing one under the column. -/
theorem sortValue_ne_resolve_of_qualified (t : String) {column : String}
    (hcolumn : '.' ∉ column.toList) : sortValue [(t ++ "." ++ column, .int 1)] column ≠
      Table.resolve [(t ++ "." ++ column, .int 1)] (t ++ "." ++ column) := by
  have hname : t ++ "." ++ column ≠ column := by
    intro heq
    rw [← heq] at hcolumn
    exact hcolumn (mem_append_point t column)
  rw [sortValue_of_not_mem _ hcolumn, Table.resolve_of_find? (v := .int 1) (by simp [Fields.find?])]
  simp [Fields.find?, hname]

/-- In all rows they do so exactly under names without points. -/
theorem forall_sortValue_eq_resolve_iff :
    (∀ row, sortValue row (ctx.columnName field) =
      Table.resolve row (ctx.qualifiedName field table)) ↔
      '.' ∉ (ctx.qualifiedName field table).toList := by
  constructor
  · intro hagree hmem
    rcases qualifiedName_eq_or ctx field table with hname | ⟨hcolumn, t, hname⟩
    · have hcount := (forall_sortValue_eq_resolve_iff_count ctx field table).1
        fun row _ => hagree row
      rw [hname] at hcount hmem hagree
      obtain ⟨head, rest, hhead, hsplit⟩ := exists_eq_append_of_mem hmem
      rw [hsplit] at hcount hagree
      have hrest : '.' ∉ rest.toList := by
        rw [count_append_point] at hcount
        exact List.count_eq_zero.1 (by omega)
      exact sortValue_ne_resolve_of_split hhead hrest (hagree _)
    · rw [hname] at hagree
      exact sortValue_ne_resolve_of_qualified t hcolumn (hagree _)
  · intro hname row
    have hcount : (ctx.qualifiedName field table).toList.count '.' ≤ 1 := by
      rw [List.count_eq_zero.2 hname]
      exact Nat.zero_le 1
    exact sortValue_eq_resolve ctx field table hcount fun hmem => absurd hmem hname

end Tables

/-- Where the value at an edge is the one that its row is sorted and bounded by. A document's may only
differ where its path leads nowhere but the last name does. On tables a name without points is always
safe, and one with a single point in rows that hold nothing under the name as a whole. -/
theorem sortValue_agrees_under_names (ctx : Table.Context) (field : String)
    (table : Option String) :
    (∀ row, sortValue row field = Value.lookup row field ↔
      (Value.lookup row field = none → Fields.find? row (lastSegment field) = none)) ∧
    ((∀ row, sortValue row field = Value.lookup row field) ↔ '.' ∉ field.toList) ∧
    ((∀ row, sortValue row (ctx.columnName field) =
      Table.resolve row (ctx.qualifiedName field table)) ↔
      '.' ∉ (ctx.qualifiedName field table).toList) ∧
    ((∀ row, ('.' ∈ (ctx.qualifiedName field table).toList →
        Value.lookup row (ctx.qualifiedName field table) = none) →
      sortValue row (ctx.columnName field) =
        Table.resolve row (ctx.qualifiedName field table)) ↔
      (ctx.qualifiedName field table).toList.count '.' ≤ 1) :=
  ⟨fun row => sortValue_eq_lookup_iff row field, forall_sortValue_eq_lookup_iff field,
    forall_sortValue_eq_resolve_iff ctx field table,
    forall_sortValue_eq_resolve_iff_count ctx field table⟩

theorem edges_of_created_rows :
    let row : Row := [("createdAt", .int 3), ("meta", .map [("rank", .int 9)])]
    let ctx := Table.Context.default.withSnakeCase false
    sortValue row "meta.rank" = Value.lookup row "meta.rank" ∧
      sortValue row "createdAt" = Value.lookup row "createdAt" ∧
      ctx.qualifiedName "createdAt" (some "users") = "users.createdAt" ∧
      sortValue row (ctx.columnName "createdAt") =
        Table.resolve row (ctx.qualifiedName "createdAt" (some "users")) ∧
      sortValue row (ctx.columnName "users.createdAt") =
        Table.resolve row (ctx.qualifiedName "users.createdAt" (some "users")) := by
  intro row ctx
  have hpath : Value.lookup row "meta.rank" = none →
      Fields.find? row (lastSegment "meta.rank") = none := by
    decide +kernel
  have hplain : '.' ∉ "createdAt".toList := by decide +kernel
  have hunqualified : '.' ∈ (ctx.qualifiedName "createdAt" (some "users")).toList →
      Value.lookup row (ctx.qualifiedName "createdAt" (some "users")) = none := by
    decide +kernel
  have hqualified : '.' ∈ (ctx.qualifiedName "users.createdAt" (some "users")).toList →
      Value.lookup row (ctx.qualifiedName "users.createdAt" (some "users")) = none := by
    decide +kernel
  have hone : (ctx.qualifiedName "createdAt" (some "users")).toList.count '.' ≤ 1 := by
    decide +kernel
  have honce : (ctx.qualifiedName "users.createdAt" (some "users")).toList.count '.' ≤ 1 := by
    decide +kernel
  obtain ⟨hrow, _⟩ := sortValue_agrees_under_names ctx "meta.rank" none
  obtain ⟨_, hdocuments, _, hrows⟩ := sortValue_agrees_under_names ctx "createdAt" (some "users")
  obtain ⟨_, _, _, hcells⟩ := sortValue_agrees_under_names ctx "users.createdAt" (some "users")
  exact ⟨(hrow row).2 hpath, hdocuments.2 hplain row, by decide +kernel,
    hrows.2 hone row hunqualified, hcells.2 honce row hqualified⟩

/-- A document without the path stands in front of one with it, and its page hands on the value of
another field. A table of a schema sorts by no cell, and its edges hold one. -/
theorem edge_holds_other_field :
    let docs : List Row := [[("rank", .int 1)], [("meta", .map [("rank", .int 5)])]]
    let row : Row := [("n", .int 1)]
    Value.lookup [("rank", .int 1)] "meta.rank" = none ∧
      sortValue [("rank", .int 1)] "meta.rank" = some (.int 1) ∧
      (documentsByCursor .default (.ofList docs)
        ⟨.map [], "meta.rank", .asc, some 1, none, .next⟩).map (fun p => (p.list, p.next)) =
        .ok ([[("rank", .int 1)]], some (.int 1)) ∧
      Table.Context.default.qualifiedName "n" (some "public.users") = "public.users.n" ∧
      Table.resolve row "public.users.n" = none ∧
      sortValue row (Table.Context.default.columnName "n") = some (.int 1) := by
  intro docs row
  decide +kernel

end Page

end PagedFilter
