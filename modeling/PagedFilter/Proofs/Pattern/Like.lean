import PagedFilter.Proofs.Pattern.Rows
import PagedFilter.Table.Evaluate

/-!
What a `like` operand means. Its text as a pattern, with every other character escaped, is read as the
pattern of its parts and nothing else, and that pattern matches a text where the operand covers it.
-/

namespace PagedFilter

namespace Pattern

/-! ### Reading one token -/

section Reading

variable {m : Mode} {fuel : Nat} {cs : List Char} {names : List (List Char)}
  {branches : List (Nested Pattern)} {items : List Item}

theorem Mode.skip_eq (hv : m.verbose = false) (cs : List Char) : m.skip cs = cs := by
  rw [Mode.skip, hv]
  rfl

theorem isMeta_eq_true_iff {c : Char} : isMeta c = true ↔ c ∈ ['\\', '.', '+', '*', '?', '(', ')',
    '|', '[', ']', '\x7b', '\x7d', '^', '$', '#', '&', '-', '~'] := by
  rw [isMeta, List.contains_iff_mem]
  rfl

theorem readInside_plain {c : Char} (hv : m.verbose = false) (hc : isMeta c = false) :
    readInside (fuel + 1) m ⟨c :: cs, names⟩ branches items =
      readInside fuel m ⟨cs, names⟩ branches (.one (m.literal c) :: items) := by
  have hmeta : ¬isMeta c = true := by simp [hc]
  simp only [isMeta_eq_true_iff, List.mem_cons, List.not_mem_nil, or_false, not_or] at hmeta
  rw [readInside, Mode.skip_eq hv]
  split <;> simp_all

theorem readEscape_meta {c : Char} (hc : isMeta c = true) :
    readEscape m (c :: cs) = some (.char c, cs) := by
  have hliteral : isLiteralEscape c = true := by rw [isLiteralEscape, hc, Bool.true_or]
  rw [readEscape, if_pos hliteral]
  -- no character with a meaning of its own is a letter, so none of the named escapes is read
  all_goals
    rintro rfl
    exact absurd hc (by decide)

theorem readInside_escaped {c : Char} (hv : m.verbose = false) (hc : isMeta c = true) :
    readInside (fuel + 1) m ⟨'\\' :: c :: cs, names⟩ branches items =
      readInside fuel m ⟨cs, names⟩ branches (.one (m.literal c) :: items) := by
  rw [readInside, Mode.skip_eq hv]
  simp only [readEscape_meta hc]
  rfl

theorem readInside_dot (hv : m.verbose = false) :
    readInside (fuel + 1) m ⟨'.' :: cs, names⟩ branches items =
      readInside fuel m ⟨cs, names⟩ branches (.one m.dot :: items) := by
  rw [readInside, Mode.skip_eq hv]
  rfl

theorem readInside_star (hv : m.verbose = false) {p : Pattern} {depth : Nat}
    (hcs : cs.head? ≠ some '?') :
    readInside (fuel + 1) m ⟨'*' :: cs, names⟩ branches (⟨some p, depth⟩ :: items) =
      readInside fuel m ⟨cs, names⟩ branches (⟨some (p.repeated 0 none), depth + 1⟩ :: items) := by
  have hlazy : skipLazy cs = cs := by
    unfold skipLazy
    split
    · exact absurd rfl hcs
    · rfl
  rw [readInside, Mode.skip_eq hv]
  simp only [repeatLast, hlazy]
  rfl

theorem readInside_start (hv : m.verbose = false) :
    readInside (fuel + 1) m ⟨'^' :: cs, names⟩ branches items =
      readInside fuel m ⟨cs, names⟩ branches (.one m.start :: items) := by
  rw [readInside, Mode.skip_eq hv]
  rfl

theorem readInside_finish (hv : m.verbose = false) :
    readInside (fuel + 2) m ⟨['$'], names⟩ branches items =
      some (choose (branch (.one m.finish :: items) :: branches), ⟨[], names⟩) := by
  rw [readInside, Mode.skip_eq hv]
  simp only [readInside, Mode.skip_eq hv]

end Reading

theorem Nested.joinedDepth_le {ds : List Nat} {n : Nat} (h : ∀ d ∈ ds, d ≤ n) :
    Nested.joinedDepth ds ≤ n + 1 := by
  have hmax : ∀ (ds : List Nat) (start : Nat), start ≤ n → (∀ d ∈ ds, d ≤ n) →
      ds.foldl max start ≤ n := by
    intro ds
    induction ds with
    | nil => exact fun _ hstart _ => hstart
    | cons d ds ih =>
      intro start hstart hds
      obtain ⟨hd, hds⟩ := List.forall_mem_cons.1 hds
      exact ih _ (Nat.max_le.2 ⟨hstart, hd⟩) hds
  unfold Nested.joinedDepth
  split
  · exact Nat.zero_le _
  · exact Nat.le_succ_of_le (h _ List.mem_cons_self)
  · exact Nat.succ_le_succ (hmax ds 0 (Nat.zero_le n) h)

end Pattern

namespace Like

open Pattern (Item Nested IsRow places)

variable {ignoreCase : Bool}

/-! ### Reading what is written -/

/-- A part as the reader keeps it. -/
def Part.item (ignoreCase : Bool) : Part → Item
  | anyRun => ⟨some (.rep (.one .any) 0 none), 1⟩
  | anyOne => .one (.one .any)
  | literal c => .one ((mode ignoreCase).literal c)

theorem Part.content_item (p : Part) : (p.item ignoreCase).content = some (p.pattern ignoreCase) := by
  cases p <;> rfl

theorem Part.depth_item_le (p : Part) : (p.item ignoreCase).depth ≤ 1 := by
  cases p
  case anyRun => exact Nat.le_refl 1
  all_goals exact Nat.zero_le 1

theorem Part.isEmpty_pattern (p : Part) : (p.pattern ignoreCase).isEmpty = false := by
  cases p <;> rfl

theorem head?_escaped_append (c : Char) (cs : List Char) :
    (escaped c ++ cs).head? ≠ some '?' := by
  rw [escaped]
  split
  · simp
  · next hmeta =>
    rintro heq
    rw [List.cons_append, List.head?_cons, Option.some.injEq] at heq
    exact hmeta (heq ▸ by decide)

/-- What is written does not start with the mark of a lazy repetition. -/
theorem head?_written (ps : List Part) : (ps.flatMap Part.written ++ ['$']).head? ≠ some '?' := by
  cases ps with
  | nil => decide
  | cons p ps =>
    rw [List.flatMap_cons, List.append_assoc]
    cases p with
    | anyRun => simp [Part.written]
    | anyOne => simp [Part.written]
    | literal c => exact head?_escaped_append c _

theorem length_le_flatMap_written (ps : List Part) :
    ps.length ≤ (ps.flatMap Part.written).length := by
  induction ps with
  | nil => exact Nat.le_refl 0
  | cons p ps ih =>
    have hp : 0 < p.written.length := by
      cases p with
      | literal c =>
        rw [Part.written, escaped]
        split <;> exact Nat.succ_pos _
      | _ => exact Nat.succ_pos _
    rw [List.flatMap_cons, List.length_cons, List.length_append]
    omega

theorem readInside_part (ignoreCase : Bool) (fuel : Nat) (names : List (List Char))
    (branches : List (Nested Pattern)) (items : List Item) (p : Part) {cs : List Char}
    (hcs : cs.head? ≠ some '?') :
    ∃ k, fuel ≤ k ∧ Pattern.readInside (fuel + 2) (mode ignoreCase) ⟨p.written ++ cs, names⟩ branches
      items = Pattern.readInside k (mode ignoreCase) ⟨cs, names⟩ branches
        (p.item ignoreCase :: items) := by
  have hv : (mode ignoreCase).verbose = false := rfl
  cases p with
  | anyRun =>
    refine ⟨fuel, Nat.le_refl _, ?_⟩
    exact (Pattern.readInside_dot hv).trans (Pattern.readInside_star hv hcs)
  | anyOne => exact ⟨fuel + 1, Nat.le_succ _, Pattern.readInside_dot hv⟩
  | literal c =>
    refine ⟨fuel + 1, Nat.le_succ _, ?_⟩
    rw [Part.written, escaped]
    split
    · next hmeta => exact Pattern.readInside_escaped hv hmeta
    · next hplain => exact Pattern.readInside_plain hv (Bool.eq_false_iff.2 hplain)

/-- By induction on the parts, each of which becomes one item. -/
theorem readInside_parts {fuel : Nat} (ps : List Part) {names : List (List Char)}
    {branches : List (Nested Pattern)} {items : List Item} (hfuel : 2 * ps.length + 2 ≤ fuel) :
    Pattern.readInside fuel (mode ignoreCase) ⟨ps.flatMap Part.written ++ ['$'], names⟩ branches
      items = some (Pattern.choose (Pattern.branch (.one (.anchor .textEnd) ::
        ((ps.map (Part.item ignoreCase)).reverse ++ items)) :: branches), ⟨[], names⟩) := by
  induction ps generalizing fuel items with
  | nil =>
    obtain ⟨k, rfl⟩ : ∃ k, fuel = k + 2 := ⟨fuel - 2, by simp at hfuel; omega⟩
    exact Pattern.readInside_finish rfl
  | cons p ps ih =>
    rw [List.length_cons] at hfuel
    obtain ⟨k, rfl⟩ : ∃ k, fuel = k + 2 := ⟨fuel - 2, by omega⟩
    obtain ⟨n, hn, hstep⟩ := readInside_part ignoreCase k names branches items p (head?_written ps)
    rw [List.flatMap_cons, List.append_assoc, hstep, ih (by omega), List.map_cons, List.reverse_cons,
      List.append_assoc, List.singleton_append]

theorem row_tail (ps : List Part) :
    Pattern.row (ps.map (Part.pattern ignoreCase) ++ [.anchor .textEnd]) = tail ignoreCase ps := by
  induction ps with
  | nil => rfl
  | cons p ps ih =>
    cases ps with
    | nil => rfl
    | cons q ps =>
      rw [tail, ← ih]
      rfl

/-- The items of an operand, the last one first. -/
def items (ignoreCase : Bool) (ps : List Part) : List Item :=
  .one (.anchor .textEnd) ::
    ((ps.map (Part.item ignoreCase)).reverse ++ [.one (.anchor .textStart)])

theorem filterMap_content_parts (ps : List Part) :
    ((ps.map (Part.item ignoreCase)).map (·.content)).filterMap id =
      ps.map (Part.pattern ignoreCase) := by
  induction ps with
  | nil => rfl
  | cons p ps ih =>
    rw [List.map_cons, List.map_cons, List.filterMap_cons, Part.content_item, ih]
    rfl

theorem filterMap_content_items (ps : List Part) :
    ((items ignoreCase ps).reverse.map (·.content)).filterMap id =
      .anchor .textStart :: (ps.map (Part.pattern ignoreCase) ++ [.anchor .textEnd]) := by
  simp only [items, List.reverse_cons, List.reverse_append, List.reverse_reverse, List.map_append,
    List.filterMap_append, filterMap_content_parts]
  rfl

theorem content_branch_items (ps : List Part) :
    (Pattern.branch (items ignoreCase ps)).content =
      .seq (.anchor .textStart) (tail ignoreCase ps) := by
  have hfull : ∀ p ∈ .anchor .textStart :: (ps.map (Part.pattern ignoreCase) ++ [.anchor .textEnd]),
      (!p.isEmpty) = true := by
    intro p hp
    simp only [List.mem_cons, List.mem_append, List.mem_map, List.not_mem_nil, or_false] at hp
    rcases hp with rfl | ⟨q, _, rfl⟩ | rfl
    · rfl
    · rw [q.isEmpty_pattern, Bool.not_false]
    · rfl
  have hconcat : (Pattern.branch (items ignoreCase ps)).content =
      Pattern.concat (((items ignoreCase ps).reverse.map (·.content)).filterMap id) := rfl
  rw [hconcat, filterMap_content_items, Pattern.concat, List.filter_eq_self.2 hfull, ← row_tail]
  cases ps <;> rfl

theorem depth_branch_items (ps : List Part) :
    (Pattern.branch (items ignoreCase ps)).depth ≤ 2 := by
  refine Nested.joinedDepth_le fun d hd => ?_
  obtain ⟨item, hitem, rfl⟩ := List.mem_map.1 hd
  simp only [items, List.mem_reverse, List.mem_cons, List.mem_append, List.mem_map, List.not_mem_nil,
    or_false] at hitem
  rcases hitem with rfl | ⟨p, _, rfl⟩ | rfl
  · exact Nat.zero_le 1
  · exact p.depth_item_le
  · exact Nat.zero_le 1

/-- The text of an operand is read as the pattern of its parts, unless that is too large. -/
theorem read?_written (operand : String) :
    Pattern.read? (mode ignoreCase) (written operand) =
      if fits operand ignoreCase then some (pattern operand ignoreCase) else none := by
  have hlength := length_le_flatMap_written (parts operand.toList)
  have hread : Pattern.readInside (2 * (written operand).toList.length + 2) (mode ignoreCase)
      ⟨(written operand).toList, []⟩ [] [] =
        some (Pattern.choose [Pattern.branch (items ignoreCase (parts operand.toList))], ⟨[], []⟩) := by
    have htext : (written operand).toList =
        '^' :: ((parts operand.toList).flatMap Part.written ++ ['$']) := by
      rw [written, String.toList_ofList, List.cons_append]
    -- a part is written in one character at least and read in two steps at most
    have hfuel : 2 * (parts operand.toList).length + 2 ≤
        2 * ((parts operand.toList).flatMap Part.written ++ ['$']).length.succ + 1 := by
      rw [List.length_append]
      omega
    rw [htext, Pattern.readInside_start rfl, List.length_cons, readInside_parts _ hfuel]
    rfl
  have hpattern : (Pattern.choose [Pattern.branch
      (items ignoreCase (parts operand.toList))]).content = pattern operand ignoreCase :=
    content_branch_items (parts operand.toList)
  have hdepth : (Pattern.choose [Pattern.branch
      (items ignoreCase (parts operand.toList))]).depth ≤ Pattern.depthLimit :=
    Nat.le_trans (depth_branch_items (parts operand.toList)) (by decide)
  rw [Pattern.read?, hread, Option.bind_eq_bind, Option.bind_some]
  by_cases hfits : fits operand ignoreCase = true
  · rw [if_pos hfits, ← hpattern]
    exact if_pos ⟨rfl, hdepth, hpattern.symm ▸ hfits⟩
  · rw [if_neg hfits]
    exact if_neg fun h => hfits ((congrArg Pattern.fits hpattern).symm.trans h.2.2)

/-! ### What an operand covers -/

/-- Whether an operand covers a whole text. -/
inductive Covers : List Char → List Char → Prop
  | nil : Covers [] []
  | anyRun (run : List Char) {operand text : List Char} (h : Covers operand text) :
      Covers ('%' :: operand) (run ++ text)
  | anyOne (c : Char) {operand text : List Char} (h : Covers operand text) :
      Covers ('_' :: operand) (c :: text)
  /-- A backslash makes the next character literal. -/
  | escaped (c : Char) {operand text : List Char} (h : Covers operand text) :
      Covers ('\\' :: c :: operand) (c :: text)
  /-- At the end of an operand it stands for nothing. -/
  | loneBackslash : Covers ['\\'] []
  | itself {c : Char} (hrun : c ≠ '%') (hone : c ≠ '_') (hbackslash : c ≠ '\\')
      {operand text : List Char} (h : Covers operand text) : Covers (c :: operand) (c :: text)

/-- Whether parts in a row cover what a text has from a place on. -/
def Reach (cs : List Char) : List Part → Nat → Prop
  | [], i => i = cs.length
  | .anyRun :: ps, i => ∃ j, i ≤ j ∧ j ≤ cs.length ∧ Reach cs ps j
  | .anyOne :: ps, i => i < cs.length ∧ Reach cs ps (i + 1)
  | .literal c :: ps, i => cs[i]? = some c ∧ Reach cs ps (i + 1)

/-- By induction on the parts: each part leads a row to the row of the places that it reaches. -/
theorem run_tail_ne_nil_iff {cs : List Char} (ps : List Part) {spots : List Spot}
    (h : IsRow cs spots) :
    (tail false ps).run spots ≠ [] ↔ ∃ i ∈ places spots, Reach cs ps i := by
  induction ps generalizing spots with
  | nil =>
    have hend : ∀ s ∈ spots, Anchor.textEnd.holds s = true ↔ s.place = cs.length := by
      intro s hs
      have hle := h.place_le s hs
      rw [h.eq_ofText s hs, Anchor.holds, List.isEmpty_iff, Spot.ofText, List.drop_eq_nil_iff]
      exact ⟨Nat.le_antisymm hle, Nat.le_of_eq ∘ Eq.symm⟩
    constructor
    · intro hne
      obtain ⟨s, hs⟩ := List.exists_mem_of_ne_nil _ hne
      obtain ⟨hs, hholds⟩ := List.mem_filter.1 hs
      exact ⟨s.place, List.mem_map_of_mem hs, (hend s hs).1 hholds⟩
    · rintro ⟨i, hi, hlast⟩
      have hs := h.mem_iff.2 hi
      exact List.ne_nil_of_mem (List.mem_filter.2 ⟨hs, (hend _ hs).2 hlast⟩)
  | cons p ps ih =>
    rw [tail, Pattern.run_seq]
    cases p with
    | anyRun =>
      rw [Part.pattern, ih (Pattern.isRow_anyRun h)]
      simp only [h.mem_places_anyRun_iff, Reach]
      constructor
      · rintro ⟨j, ⟨i, hi, hij, hj⟩, hreach⟩
        exact ⟨i, hi, j, hij, hj, hreach⟩
      · rintro ⟨i, hi, j, hij, hj, hreach⟩
        exact ⟨j, ⟨i, hi, hij, hj⟩, hreach⟩
    | anyOne =>
      rw [Part.pattern, ih (Pattern.isRow_advance h)]
      simp only [h.mem_places_advance_iff, Reach]
      constructor
      · rintro ⟨_, ⟨i, hi, rfl, hlt⟩, hreach⟩
        exact ⟨i, hi, hlt, hreach⟩
      · rintro ⟨i, hi, hlt, hreach⟩
        exact ⟨i + 1, ⟨i, hi, rfl, hlt⟩, hreach⟩
    | literal c =>
      rw [Part.pattern, if_neg Bool.false_ne_true, ih (Pattern.isRow_one h)]
      simp only [h.mem_places_one_iff, Reach]
      have hsingle : ∀ i, cs[i]? = some c ↔
          ∃ hlt : i < cs.length, (CharSet.single c).holds cs[i].toNat = true := by
        intro i
        simp only [List.getElem?_eq_some_iff, CharSet.holds_single, decide_eq_true_eq, Char.toNat_inj]
      simp only [hsingle]
      constructor
      · rintro ⟨_, ⟨i, hi, rfl, hc⟩, hreach⟩
        exact ⟨i, hi, hc, hreach⟩
      · rintro ⟨i, hi, hc, hreach⟩
        exact ⟨i + 1, ⟨i, hi, rfl, hc⟩, hreach⟩

/-- Only the start of a text has no character before it. -/
theorem mem_places_textStart_iff {cs : List Char} {i : Nat} :
    i ∈ places ((Pattern.anchor .textStart).run (Spot.all cs)) ↔ i = 0 := by
  have hrow := Pattern.isRow_all cs
  rw [Pattern.mem_places_iff]
  constructor
  · rintro ⟨s, hs, rfl⟩
    obtain ⟨hs, hholds⟩ := List.mem_filter.1 hs
    have hle := hrow.place_le s hs
    rw [hrow.eq_ofText s hs, Anchor.holds, Option.isNone_iff_eq_none, Spot.ofText,
      List.getLast?_eq_none_iff, List.take_eq_nil_iff] at hholds
    rcases hholds with hzero | hnil
    · exact hzero
    · rw [hnil] at hle
      exact Nat.le_zero.1 hle
  · rintro rfl
    have hs := hrow.mem_iff.2 (Pattern.mem_places_all_iff.2 (Nat.zero_le _))
    exact ⟨_, List.mem_filter.2 ⟨hs, rfl⟩, rfl⟩

theorem isMatch_pattern_iff (operand text : String) :
    (pattern operand false).isMatch text = true ↔
      Reach text.toList (parts operand.toList) 0 := by
  have hrow : IsRow text.toList ((Pattern.anchor .textStart).run (Spot.all text.toList)) :=
    (Pattern.isRow_all text.toList).sublist List.filter_sublist
  rw [Pattern.isMatch, Bool.not_eq_true', List.isEmpty_eq_false_iff, pattern, Pattern.run_seq,
    run_tail_ne_nil_iff _ hrow]
  simp only [mem_places_textStart_iff, exists_eq_left]

/-! ### Operands by their first character -/

section Inversion

variable {operand text : List Char}

theorem covers_nil_iff : Covers [] text ↔ text = [] := by
  constructor
  · rintro ⟨⟩
    rfl
  · rintro rfl
    exact .nil

theorem covers_loneBackslash_iff : Covers ['\\'] text ↔ text = [] := by
  constructor
  · intro h
    cases h with
    | loneBackslash => rfl
    | itself _ _ hbackslash => exact absurd rfl hbackslash
  · rintro rfl
    exact .loneBackslash

theorem covers_anyRun_iff : Covers ('%' :: operand) text ↔
    ∃ run rest, text = run ++ rest ∧ Covers operand rest := by
  constructor
  · intro h
    cases h with
    | anyRun run h => exact ⟨run, _, rfl, h⟩
    | itself hrun => exact absurd rfl hrun
  · rintro ⟨run, rest, rfl, h⟩
    exact .anyRun run h

theorem covers_anyOne_iff : Covers ('_' :: operand) text ↔
    ∃ c rest, text = c :: rest ∧ Covers operand rest := by
  constructor
  · intro h
    cases h with
    | anyOne c h => exact ⟨c, _, rfl, h⟩
    | itself _ hone => exact absurd rfl hone
  · rintro ⟨c, rest, rfl, h⟩
    exact .anyOne c h

theorem covers_escaped_iff {c : Char} : Covers ('\\' :: c :: operand) text ↔
    ∃ rest, text = c :: rest ∧ Covers operand rest := by
  constructor
  · intro h
    cases h with
    | escaped c h => exact ⟨_, rfl, h⟩
    | itself _ _ hbackslash => exact absurd rfl hbackslash
  · rintro ⟨rest, rfl, h⟩
    exact .escaped c h

theorem covers_itself_iff {c : Char} (hrun : c ≠ '%') (hone : c ≠ '_') (hbackslash : c ≠ '\\') :
    Covers (c :: operand) text ↔ ∃ rest, text = c :: rest ∧ Covers operand rest := by
  constructor
  · intro h
    cases h with
    | itself _ _ _ h => exact ⟨_, rfl, h⟩
    | _ => contradiction
  · rintro ⟨rest, rfl, h⟩
    exact .itself hrun hone hbackslash h

end Inversion

theorem exists_drop_eq_cons_iff {cs : List Char} {i : Nat} {c : Char} {P : List Char → Prop} :
    (∃ rest, cs.drop i = c :: rest ∧ P rest) ↔ cs[i]? = some c ∧ P (cs.drop (i + 1)) := by
  by_cases hlt : i < cs.length
  · rw [List.drop_eq_getElem_cons hlt, List.getElem?_eq_getElem hlt, Option.some.injEq]
    simp only [List.cons.injEq, and_assoc, exists_and_left, exists_eq_left']
  · have hle := Nat.le_of_not_lt hlt
    rw [List.drop_eq_nil_of_le hle, List.getElem?_eq_none hle]
    simp

theorem exists_drop_eq_append_iff {cs : List Char} {i : Nat} (hi : i ≤ cs.length)
    {P : List Char → Prop} :
    (∃ run rest, cs.drop i = run ++ rest ∧ P rest) ↔
      ∃ j, i ≤ j ∧ j ≤ cs.length ∧ P (cs.drop j) := by
  constructor
  · rintro ⟨run, rest, hsplit, hrest⟩
    have hlength := congrArg List.length hsplit
    rw [List.length_drop, List.length_append] at hlength
    have hdrop : cs.drop (i + run.length) = rest := by
      rw [← List.drop_drop, hsplit, List.drop_left]
    exact ⟨i + run.length, Nat.le_add_right _ _, by omega, hdrop ▸ hrest⟩
  · rintro ⟨j, hij, -, hP⟩
    refine ⟨(cs.drop i).take (j - i), cs.drop j, ?_, hP⟩
    have hdrop : (cs.drop i).drop (j - i) = cs.drop j := by
      rw [List.drop_drop, Nat.add_sub_cancel' hij]
    rw [← hdrop, List.take_append_drop]

/-- By induction along the parts of an operand. -/
theorem reach_parts_iff {cs : List Char} (operand : List Char) {i : Nat} (hi : i ≤ cs.length) :
    Reach cs (parts operand) i ↔ Covers operand (cs.drop i) := by
  have hnext : ∀ {i c}, cs[i]? = some c → i + 1 ≤ cs.length := fun hc =>
    (List.getElem?_eq_some_iff.1 hc).1
  induction operand using parts.induct generalizing i with
  | case1 =>
    rw [parts, Reach, covers_nil_iff, List.drop_eq_nil_iff]
    exact ⟨Nat.le_of_eq ∘ Eq.symm, Nat.le_antisymm hi⟩
  | case2 operand ih =>
    rw [parts, Reach, covers_anyRun_iff, exists_drop_eq_append_iff hi]
    exact exists_congr fun j => and_congr_right fun _ => and_congr_right fun hj => ih hj
  | case3 operand ih =>
    rw [parts, Reach, covers_anyOne_iff]
    simp only [exists_drop_eq_cons_iff]
    constructor
    · rintro ⟨hlt, hreach⟩
      exact ⟨cs[i], List.getElem?_eq_getElem hlt, (ih hlt).1 hreach⟩
    · rintro ⟨c, hc, hcovers⟩
      exact ⟨hnext hc, (ih (hnext hc)).2 hcovers⟩
  | case4 =>
    rw [parts, Reach, covers_loneBackslash_iff, List.drop_eq_nil_iff]
    exact ⟨Nat.le_of_eq ∘ Eq.symm, Nat.le_antisymm hi⟩
  | case5 c operand ih =>
    rw [parts, Reach, covers_escaped_iff, exists_drop_eq_cons_iff]
    exact and_congr_right fun hc => ih (hnext hc)
  | case6 c operand hrun hone hlone hescaped ih =>
    have hbackslash : c ≠ '\\' := by
      rintro rfl
      cases operand with
      | nil => exact hlone rfl rfl
      | cons d operand => exact hescaped d operand rfl rfl
    rw [parts, Reach, covers_itself_iff hrun hone hbackslash, exists_drop_eq_cons_iff]
    · exact and_congr_right fun hc => ih (hnext hc)
    all_goals assumption

theorem isMatch_iff_covers (operand text : String) :
    (pattern operand false).isMatch text = true ↔ Covers operand.toList text.toList := by
  rw [isMatch_pattern_iff, reach_parts_iff _ (Nat.zero_le _), List.drop_zero]

instance (operand text : String) : Decidable (Covers operand.toList text.toList) :=
  decidable_of_iff _ (isMatch_iff_covers operand text)

/-- Every operand makes a pattern that is read, unless it is too large, and that pattern matches the
texts that the operand covers and no others; a text in a cell compares accordingly. -/
theorem written_pattern_matches_covered (operand : String) :
    Pattern.read? (mode false) (written operand) =
        (if fits operand false then some (pattern operand false) else none) ∧
      (∀ text : String, (pattern operand false).isMatch text = true ↔
        Covers operand.toList text.toList) ∧
      ∀ text : String, Table.compareCell .like (.str operand) (some (.str text)) =
        some (decide (Covers operand.toList text.toList)) := by
  refine ⟨read?_written operand, isMatch_iff_covers operand, fun text => ?_⟩
  have hcell : Table.compareCell .like (.str operand) (some (.str text)) =
      some ((pattern operand false).isMatch text) := rfl
  rw [hcell, Option.some.injEq, Bool.eq_iff_iff, decide_eq_true_iff]
  exact isMatch_iff_covers operand text

/-- A run may hold line feeds, and what has a meaning in patterns has none in an operand. -/
example : Covers "a%.\\%".toList "a\nb.%".toList := by decide +kernel

/-- A backslash at the end stands for nothing. -/
example : Covers "a\\".toList "a".toList ∧ ¬Covers "a\\".toList "a\\".toList := by decide +kernel

end Like

end PagedFilter
