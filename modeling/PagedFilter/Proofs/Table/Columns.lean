import PagedFilter.Table.Context
import PagedFilter.Table.Evaluate
import PagedFilter.Value.Path

/-!
The cells that columns name. In rows whose names have no point, a column that is qualified by a table
without a point in its name finds the cell of the field itself.
-/

namespace PagedFilter

theorem Text.divide?_append {mark : Char} {before : List Char} (h : mark ∉ before)
    (rest : List Char) : divide? mark (before ++ mark :: rest) = some (before, rest) := by
  induction before with
  | nil => simp [divide?]
  | cons c cs ih =>
    have hc : c ≠ mark := fun e => h (e ▸ List.mem_cons_self)
    have hcs : mark ∉ cs := fun m => h (List.mem_cons_of_mem _ m)
    rw [List.cons_append, divide?, if_neg hc, ih hcs]
    rfl

theorem toList_append_point (front rest : String) :
    (front ++ "." ++ rest).toList = front.toList ++ '.' :: rest.toList := by simp

theorem mem_append_point (front rest : String) : '.' ∈ (front ++ "." ++ rest).toList := by simp

/-- A name with points is a name without them, a point and the rest. -/
theorem exists_eq_append_of_mem {name : String} (h : '.' ∈ name.toList) :
    ∃ head rest : String, '.' ∉ head.toList ∧ name = head ++ "." ++ rest := by
  obtain ⟨head, rest, hname, hhead⟩ := List.eq_append_cons_of_mem h
  refine ⟨String.ofList head, String.ofList rest, by simpa using hhead, ?_⟩
  rw [← String.toList_inj]
  simpa using hname

/-- No name of a row has a point. -/
def Row.IsFlat (row : Row) : Prop := ∀ e ∈ row, '.' ∉ e.1.toList

instance (row : Row) : Decidable row.IsFlat :=
  inferInstanceAs (Decidable (∀ e ∈ row, '.' ∉ e.1.toList))

theorem Row.IsFlat.find?_eq_none {row : Row} (h : row.IsFlat) {column : String}
    (hc : '.' ∈ column.toList) : Fields.find? row column = none := by
  induction row with
  | nil => rfl
  | cons e rest ih =>
    obtain ⟨j, v⟩ := e
    have hj : j ≠ column := by
      rintro rfl
      exact h (j, v) List.mem_cons_self hc
    rw [Fields.find?, if_neg hj]
    exact ih fun d hd => h d (List.mem_cons_of_mem _ hd)

namespace Table

theorem resolve_append (row : Row) {head : String} (h : '.' ∉ head.toList) (rest : String) :
    resolve row (head ++ "." ++ rest) =
      (Fields.find? row (head ++ "." ++ rest)).or (Fields.find? row rest) := by
  rw [resolve, toList_append_point, Text.divide?_append h]
  cases Fields.find? row (head ++ "." ++ rest) <;> simp

theorem resolve_of_not_mem (row : Row) {column : String} (h : '.' ∉ column.toList) :
    resolve row column = Fields.find? row column := by
  rw [resolve, (Text.divide?_eq_none_iff _ _).2 h]
  cases Fields.find? row column <;> rfl

theorem resolve_qualified {row : Row} (hrow : row.IsFlat) {table : String}
    (ht : '.' ∉ table.toList) (field : String) :
    resolve row (table ++ "." ++ field) = Fields.find? row field := by
  rw [resolve_append row ht, hrow.find?_eq_none (mem_append_point table field), Option.none_or]

/-- The column of a field, qualified or not, names the cell under the renamed field. -/
theorem resolve_qualifiedName {row : Row} (hrow : row.IsFlat) {ctx : Context} {name : String}
    (ht : '.' ∉ (ctx.table.getD name).toList) {field : String}
    (hf : '.' ∉ (ctx.columnName field).toList) :
    resolve row (ctx.qualifiedName field (some name)) =
      Fields.find? row (ctx.columnName field) := by
  have hqualified : ctx.qualifiedName field (some name) =
      ctx.table.getD name ++ "." ++ ctx.columnName field := by
    rw [Context.qualifiedName]
    cases ctx.table <;> simp [hf]
  rw [hqualified, resolve_qualified hrow ht]

end Table

end PagedFilter
