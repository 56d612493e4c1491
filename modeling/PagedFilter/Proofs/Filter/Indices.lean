import PagedFilter.Filter.Canonical
import PagedFilter.Proofs.StableSort

/-!
The order of indices. Indices are compared by the numbers that they write, of any size, and those of
one number by their text; no number is ever computed for it.
-/

namespace PagedFilter.Filter

/-! ### The number of digits -/

/-- The number that digits write. -/
def numberOf (digits : List Char) : Nat := Nat.ofDigitChars 10 digits 0

/-- The number that an index writes. -/
def number (index : String) : Nat := numberOf index.toList

def AreDigits (digits : List Char) : Prop := ∀ c ∈ digits, c.isDigit = true

theorem areDigits_cons {c : Char} {rest : List Char} :
    AreDigits (c :: rest) ↔ c.isDigit = true ∧ AreDigits rest := List.forall_mem_cons

theorem numberOf_cons (c : Char) (rest : List Char) :
    numberOf (c :: rest) = 10 ^ rest.length * (c.toNat - '0'.toNat) + numberOf rest := by
  rw [numberOf, Nat.ofDigitChars_cons, Nat.ofDigitChars_eq_ofDigitChars_zero, Nat.mul_zero,
    Nat.zero_add, numberOf]

/-- Digits are the characters with the codes 48 to 57. -/
theorem toNat_of_isDigit {c : Char} (h : c.isDigit = true) : 48 ≤ c.toNat ∧ c.toNat ≤ 57 := by
  simpa [Char.isDigit, UInt32.le_iff_toNat_le] using h

theorem numberOf_lt {digits : List Char} (h : AreDigits digits) :
    numberOf digits < 10 ^ digits.length := by
  induction digits with
  | nil => exact Nat.one_pos
  | cons c rest ih =>
    obtain ⟨hc, hrest⟩ := areDigits_cons.1 h
    obtain ⟨_, hle⟩ := toNat_of_isDigit hc
    have hdigit : c.toNat - '0'.toNat ≤ 9 := Nat.sub_le_of_le_add hle
    have hbelow := ih hrest
    have hscaled := Nat.mul_le_mul_left (10 ^ rest.length) hdigit
    rw [numberOf_cons, List.length_cons, Nat.pow_succ]
    omega

theorem pow_le_numberOf {c : Char} (hc : c.isDigit = true) (hzero : c ≠ '0') (rest : List Char) :
    10 ^ rest.length ≤ numberOf (c :: rest) := by
  have hcode : c.toNat ≠ '0'.toNat := fun he => hzero (Char.toNat_inj.1 he)
  obtain ⟨hge, _⟩ := toNat_of_isDigit hc
  have hdigit : 1 ≤ c.toNat - '0'.toNat := by
    have hcode : '0'.toNat = 48 := rfl
    omega
  rw [numberOf_cons]
  exact Nat.le_add_right_of_le (Nat.le_mul_of_pos_right _ hdigit)

theorem numberOf_dropZeros (digits : List Char) :
    numberOf (digits.dropWhile (· == '0')) = numberOf digits := by
  induction digits with
  | nil => rfl
  | cons c rest ih =>
    rw [List.dropWhile_cons]
    split
    · next hzero =>
      rw [ih, numberOf_cons, beq_iff_eq.1 hzero, Nat.sub_self, Nat.mul_zero, Nat.zero_add]
    · rfl

/-! ### Comparing digits -/

/-- Without a zero in front, more digits write a greater number. -/
theorem numberOf_lt_of_length_lt {xs ys : List Char} (hx : AreDigits xs) (hy : AreDigits ys)
    (hfront : ys.head? ≠ some '0') (h : xs.length < ys.length) : numberOf xs < numberOf ys := by
  cases ys with
  | nil => exact absurd h (Nat.not_lt_zero _)
  | cons y rest =>
    have hzero : y ≠ '0' := fun he => hfront (congrArg some he)
    calc numberOf xs < 10 ^ xs.length := numberOf_lt hx
      _ ≤ 10 ^ rest.length := Nat.pow_le_pow_right (by decide) (Nat.le_of_lt_succ h)
      _ ≤ numberOf (y :: rest) := pow_le_numberOf (areDigits_cons.1 hy).1 hzero rest

/-- Of digits in one count, those with the lesser text write the lesser number. -/
theorem numberOf_lt_of_lt {xs ys : List Char} (hx : AreDigits xs) (hy : AreDigits ys)
    (hlength : xs.length = ys.length) (h : xs < ys) : numberOf xs < numberOf ys := by
  induction xs generalizing ys with
  | nil =>
    cases ys with
    | nil => exact absurd h (List.lt_irrefl _)
    | cons y rest => simp at hlength
  | cons x xs ih =>
    cases ys with
    | nil => simp at hlength
    | cons y ys =>
      obtain ⟨hx, hxs⟩ := areDigits_cons.1 hx
      obtain ⟨hy, hys⟩ := areDigits_cons.1 hy
      have hlengths : xs.length = ys.length := Nat.succ.inj hlength
      rw [numberOf_cons, numberOf_cons, hlengths]
      rcases List.cons_lt_cons_iff.1 h with hlt | ⟨rfl, hlt⟩
      · have hcodes : x.toNat < y.toNat := UInt32.lt_iff_toNat_lt.1 (Char.lt_def.1 hlt)
        have hzero : '0'.toNat = 48 := rfl
        obtain ⟨hge, _⟩ := toNat_of_isDigit hx
        have hdigits : x.toNat - '0'.toNat + 1 ≤ y.toNat - '0'.toNat := by omega
        have hbelow : numberOf xs < 10 ^ ys.length := hlengths ▸ numberOf_lt hxs
        calc 10 ^ ys.length * (x.toNat - '0'.toNat) + numberOf xs
          _ < 10 ^ ys.length * (x.toNat - '0'.toNat + 1) := Nat.add_lt_add_left hbelow _
          _ ≤ 10 ^ ys.length * (y.toNat - '0'.toNat) := Nat.mul_le_mul_left _ hdigits
          _ ≤ 10 ^ ys.length * (y.toNat - '0'.toNat) + numberOf ys := Nat.le_add_right _ _
      · exact Nat.add_lt_add_left (ih hxs hys hlengths hlt) _

/-- Digits in one count compare as texts in the way that their numbers compare. -/
theorem compare_ofList {xs ys : List Char} (hx : AreDigits xs) (hy : AreDigits ys)
    (hlength : xs.length = ys.length) :
    compare (String.ofList xs) (String.ofList ys) = compare (numberOf xs) (numberOf ys) := by
  have hlt : ∀ {as bs : List Char},
      compare (String.ofList as) (String.ofList bs) = .lt → as < bs := by
    intro as bs h
    have htext : String.ofList as < String.ofList bs := compareOfLessAndEq_eq_lt.1 h
    rwa [String.lt_iff, String.toList_ofList, String.toList_ofList] at htext
  cases h : compare (String.ofList xs) (String.ofList ys) with
  | lt => exact (Nat.compare_eq_lt.2 (numberOf_lt_of_lt hx hy hlength (hlt h))).symm
  | eq =>
    rw [String.ofList_injective (Std.LawfulEqCmp.eq_of_compare h)]
    exact (Nat.compare_eq_eq.2 rfl).symm
  | gt =>
    have hswap := Std.OrientedCmp.gt_iff_lt.1 h
    exact (Nat.compare_eq_gt.2 (numberOf_lt_of_lt hy hx hlength.symm (hlt hswap))).symm

/-! ### Comparing indices -/

theorem areDigits_of_isIndex {name : String} (h : isIndex name = true) : AreDigits name.toList := by
  rw [isIndex, Bool.and_eq_true, List.all_eq_true] at h
  exact h.2

theorem areDigits_significant {name : String} (h : isIndex name = true) :
    AreDigits (significant name) := fun c hc =>
  areDigits_of_isIndex h c ((List.dropWhile_sublist _).mem hc)

theorem head?_significant (name : String) : (significant name).head? ≠ some '0' := by
  intro hhead
  have hnot := List.head?_dropWhile_not (· == '0') name.toList
  rw [significant] at hhead
  rw [hhead] at hnot
  simp at hnot

theorem numberOf_significant (name : String) : numberOf (significant name) = number name :=
  numberOf_dropZeros name.toList

theorem compare_significant {a b : String} (ha : isIndex a = true) (hb : isIndex b = true) :
    (compare (significant a).length (significant b).length).then
        (compare (String.ofList (significant a)) (String.ofList (significant b))) =
      compare (number a) (number b) := by
  have hda := areDigits_significant ha
  have hdb := areDigits_significant hb
  rw [← numberOf_significant a, ← numberOf_significant b]
  cases h : compare (significant a).length (significant b).length with
  | lt =>
    have hless := numberOf_lt_of_length_lt hda hdb (head?_significant b) (Nat.compare_eq_lt.1 h)
    exact (Nat.compare_eq_lt.2 hless).symm
  | eq => exact compare_ofList hda hdb (Nat.compare_eq_eq.1 h)
  | gt =>
    have hless := numberOf_lt_of_length_lt hdb hda (head?_significant a) (Nat.compare_eq_gt.1 h)
    exact (Nat.compare_eq_gt.2 hless).symm

/-- Indices are compared by their numbers and then by their text. -/
theorem compareIndices_eq {a b : String} (ha : isIndex a = true) (hb : isIndex b = true) :
    compareIndices a b = (compare (number a) (number b)).then (compare a b) := by
  rw [compareIndices, ← Ordering.then_assoc, compare_significant ha hb]

instance transCmp_compareIndices : Std.TransCmp compareIndices :=
  inferInstanceAs (Std.TransCmp (compareLex (compareOn fun a => (significant a).length)
    (compareLex (compareOn fun a => String.ofList (significant a)) compare)))

/-- Fields are in a linear order by their indices. -/
theorem isOrderOn_compareIndices {α : Type} :
    StableSort.IsOrderOn (fun a b : String × α => compareIndices a.1 b.1) fun _ => True where
  swap _ _ := Std.OrientedCmp.eq_swap.symm
  trans _ _ _ hxy hyz := by
    have hle := Std.TransCmp.isLE_trans (Ordering.isLE_iff_ne_gt.2 hxy)
      (Ordering.isLE_iff_ne_gt.2 hyz)
    exact Ordering.isLE_iff_ne_gt.1 hle

/-! ### Indices of numbers -/

theorem isIndex_toString (n : Nat) : isIndex (toString n) = true := by
  rw [isIndex, Nat.toString_eq_ofList_toDigits, String.toList_ofList, Bool.and_eq_true,
    List.all_eq_true]
  refine ⟨by simp, fun c hc => ?_⟩
  exact Nat.isDigit_of_mem_toDigits (by decide) (by decide) hc

theorem number_toString (n : Nat) : number (toString n) = n := by
  rw [number, Nat.toString_eq_ofList_toDigits, String.toList_ofList]
  exact Nat.ofDigitChars_ten_toDigits

theorem compareIndices_toString {m n : Nat} (h : m < n) :
    compareIndices (toString m) (toString n) = .lt := by
  rw [compareIndices_eq (isIndex_toString m) (isIndex_toString n), number_toString, number_toString,
    Nat.compare_eq_lt.2 h]
  rfl

end PagedFilter.Filter
