import PagedFilter.Table.Query

/-!
Quoted names. A quote in a name is doubled and a point divides the quoted segments, so a name is read
back from its quoted form whatever comes behind it, and outside of the quotes it shows its points alone.
-/

namespace PagedFilter.Table.Sql

/-! ### Character by character -/

/-- What stands for a character of a name between the outer quotes. -/
def quoteChar (c : Char) : List Char :=
  if c = '"' then ['"', '"'] else if c = '.' then ['"', '.', '"'] else [c]

theorem quoteChar_of_ne {c : Char} (hquote : c ≠ '"') (hpoint : c ≠ '.') : quoteChar c = [c] := by
  rw [quoteChar, if_neg hquote, if_neg hpoint]

/-- What joins behind the first segment does not depend on it. -/
theorem exists_joinSegments_cons (mark : Char) (rest : List (List Char)) :
    ∃ tail, ∀ s, Text.joinSegments mark (s :: rest) = s ++ tail := by
  cases rest with
  | nil => exact ⟨[], fun s => (List.append_nil s).symm⟩
  | cons t rest => exact ⟨mark :: Text.joinSegments mark (t :: rest), fun _ => rfl⟩

/-- The quoted segments of a text, joined, are its characters one by one between two quotes. -/
theorem joinSegments_quoteSegment (cs : List Char) :
    Text.joinSegments '.' ((Text.segments '.' cs).map quoteSegment) =
      '"' :: (cs.flatMap quoteChar ++ ['"']) := by
  induction cs with
  | nil => rfl
  | cons c rest ih =>
    obtain ⟨s, others, hsegments⟩ := List.exists_cons_of_ne_nil (Text.segments_ne_nil '.' rest)
    rw [hsegments, List.map_cons] at ih
    rw [Text.segments, hsegments, List.flatMap_cons]
    split
    · next hpoint =>
      -- an empty quoted segment and the point stand in front of what was joined so far
      rw [List.map_cons, List.map_cons, Text.joinSegments, ih, hpoint]
      rfl
    · next hpoint =>
      have hc : quoteChar c = if c = '"' then ['"', '"'] else [c] := by
        rw [quoteChar, if_neg hpoint]
      obtain ⟨tail, htail⟩ := exists_joinSegments_cons '.' (others.map quoteSegment)
      rw [htail, quoteSegment, List.cons_append, List.cons_append, List.cons.injEq] at ih
      have hinner := ih.2
      rw [Text.extendFirst, List.map_cons, htail, quoteSegment, List.flatMap_cons, ← hc]
      simp only [List.cons_append, List.append_assoc] at hinner ⊢
      rw [hinner]

theorem toList_quoteName (name : String) :
    (quoteName name).toList = '"' :: (name.toList.flatMap quoteChar ++ ['"']) := by
  rw [quoteName, String.toList_ofList, joinSegments_quoteSegment]

/-! ### Reading names -/

/-- Whether a name that was closed by a quote has ended in front of a text. -/
def EndsName (s : List Char) : Prop := s.head? ≠ some '"' ∧ s.head? ≠ some '.'

/-- Reads the characters of a name, its first quote behind it, and what comes after the name. -/
def readQuoted? : List Char → Option (List Char × List Char)
  | '"' :: '"' :: s => (readQuoted? s).map fun p => ('"' :: p.1, p.2)
  | '"' :: '.' :: '"' :: s => (readQuoted? s).map fun p => ('.' :: p.1, p.2)
  | '"' :: s => some ([], s)
  | c :: s => (readQuoted? s).map fun p => (c :: p.1, p.2)
  | [] => none

/-- Reads a quoted name and what comes after it. -/
def readName? : List Char → Option (String × List Char)
  | '"' :: s => (readQuoted? s).map fun p => (String.ofList p.1, p.2)
  | _ => none

theorem readQuoted?_quoteChar (c : Char) (s : List Char) :
    readQuoted? (quoteChar c ++ s) = (readQuoted? s).map fun p => (c :: p.1, p.2) := by
  by_cases hquote : c = '"'
  · rw [hquote]
    rfl
  · by_cases hpoint : c = '.'
    · rw [hpoint]
      rfl
    · rw [quoteChar_of_ne hquote hpoint, List.singleton_append]
      simp [readQuoted?, hquote]

theorem readQuoted?_end {s : List Char} (h : EndsName s) : readQuoted? ('"' :: s) = some ([], s) := by
  cases s with
  | nil => rfl
  | cons c rest =>
    have hquote : c ≠ '"' := fun hc => h.1 (by rw [hc]; rfl)
    have hpoint : c ≠ '.' := fun hc => h.2 (by rw [hc]; rfl)
    simp [readQuoted?, hquote, hpoint]

theorem readName?_quoteName (name : String) {s : List Char} (h : EndsName s) :
    readName? ((quoteName name).toList ++ s) = some (name, s) := by
  have hread : ∀ cs : List Char, readQuoted? (cs.flatMap quoteChar ++ '"' :: s) = some (cs, s) := by
    intro cs
    induction cs with
    | nil => exact readQuoted?_end h
    | cons c rest ih => rw [List.flatMap_cons, List.append_assoc, readQuoted?_quoteChar, ih]; rfl
  rw [toList_quoteName, List.cons_append, List.append_assoc, List.singleton_append, readName?, hread,
    Option.map_some, String.ofList_toList]

/-! ### Outside of quotes -/

/-- The characters of a text that stand outside of quotes, from a place within quotes or not. -/
def outside : Bool → List Char → List Char
  | _, [] => []
  | inside, c :: s =>
    if c = '"' then outside (!inside) s else if inside then outside inside s else c :: outside inside s

/-- The points of a name. -/
def points (name : String) : List Char := name.toList.filter (· = '.')

theorem outside_of_not_mem {t : List Char} (h : '"' ∉ t) (s : List Char) :
    outside false (t ++ s) = t ++ outside false s := by
  induction t with
  | nil => rfl
  | cons c rest ih =>
    have hc : c ≠ '"' := fun hc => h (hc ▸ List.mem_cons_self)
    have hrest : '"' ∉ rest := fun hmem => h (List.mem_cons_of_mem _ hmem)
    rw [List.cons_append, outside, if_neg hc, if_neg (by decide), ih hrest, List.cons_append]

/-- Whatever a name is, behind it the text stands outside of quotes again, and the name has shown
nothing but its points. -/
theorem outside_quoteName (name : String) (s : List Char) :
    outside false ((quoteName name).toList ++ s) = points name ++ outside false s := by
  have hinside : ∀ cs : List Char, outside true (cs.flatMap quoteChar ++ '"' :: s) =
      cs.filter (· = '.') ++ outside false s := by
    intro cs
    induction cs with
    | nil => rfl
    | cons c rest ih =>
      rw [List.flatMap_cons, List.append_assoc]
      by_cases hquote : c = '"'
      · subst hquote
        exact ih
      · by_cases hpoint : c = '.'
        · subst hpoint
          exact congrArg ('.' :: ·) ih
        · have hskip : outside true (c :: (rest.flatMap quoteChar ++ '"' :: s)) =
              outside true (rest.flatMap quoteChar ++ '"' :: s) := by
            rw [outside, if_neg hquote, if_pos rfl]
          have hfilter : (c :: rest).filter (· = '.') = rest.filter (· = '.') :=
            List.filter_cons_of_neg (by simpa using hpoint)
          rw [quoteChar_of_ne hquote hpoint, List.singleton_append, hskip, hfilter, ih]
  rw [toList_quoteName, List.cons_append, List.append_assoc, List.singleton_append, outside,
    if_pos rfl]
  exact hinside name.toList

end PagedFilter.Table.Sql
