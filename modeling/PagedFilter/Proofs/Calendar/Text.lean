import PagedFilter.Calendar.Reader
import PagedFilter.Proofs.Calendar.Date

/-!
Reading the text of an instant. A text tells the millisecond, so an instant of a whole millisecond is
read back as it is, and any other as the millisecond that it lies in.
-/

namespace PagedFilter.Instant

/-- An instant without the part of it that is below a millisecond. -/
def toMillis (t : Instant) : Instant := ⟨t.seconds, t.nanos / 10 ^ 6 * 10 ^ 6⟩

/-- Whether no part of an instant is below a millisecond. -/
def IsMillis (t : Instant) : Prop := t.nanos % 10 ^ 6 = 0

instance (t : Instant) : Decidable t.IsMillis := inferInstanceAs (Decidable (_ = _))

/-- Instants of the calendar in the years of four digits: a leap second follows the last second of a
minute, and none is longer than a second. -/
structure IsShown (t : Instant) : Prop where
  year : 0 ≤ t.date.year ∧ t.date.year ≤ 9999
  nanos : t.nanos < 2 * 10 ^ 9
  leap : 10 ^ 9 ≤ t.nanos → t.seconds % 60 = 59

/-! ### Digits -/

/-- Digits in a given count, and the number they write. -/
structure Writes (digits : List Char) (width n : Nat) : Prop where
  length : digits.length = width
  isDigit : ∀ c ∈ digits, c.isDigit = true
  value : digitsValue digits = n

theorem writes_twoDigits {n : Nat} (h : n < 100) : Writes (twoDigits n) 2 n := by
  have hdigit : ∀ d < 10, (Nat.digitChar d).isDigit = true ∧ (Nat.digitChar d).toNat - 48 = d := by
    decide
  have htens : n / 10 < 10 := Nat.div_lt_of_lt_mul h
  have hones : n % 10 < 10 := Nat.mod_lt n (by decide)
  refine ⟨rfl, ?_, ?_⟩
  · exact List.forall_mem_cons.2 ⟨(hdigit _ htens).1, List.forall_mem_singleton.2 (hdigit _ hones).1⟩
  · show 10 * (10 * 0 + ((n / 10).digitChar.toNat - 48)) + ((n % 10).digitChar.toNat - 48) = n
    rw [(hdigit _ htens).2, (hdigit _ hones).2]
    omega

theorem writes_padded {width n : Nat} (hwidth : 0 < width) (h : n < 10 ^ width) :
    Writes (padded width n) width n := by
  have hlength := (Nat.length_toDigits_le_iff (by decide : 1 < 10) hwidth).2 h
  constructor
  · rw [padded, List.length_append, List.length_replicate]
    omega
  · intro c hc
    rcases List.mem_append.1 hc with hzero | hdigit
    · rw [List.eq_of_mem_replicate hzero]
      rfl
    · exact Nat.isDigit_of_mem_toDigits (by decide) (by decide) hdigit
  · show Nat.ofDigitChars 10 (padded width n) 0 = n
    rw [padded, Nat.ofDigitChars_append, Nat.ofDigitChars_replicate_zero, Nat.mul_zero]
    exact Nat.ofDigitChars_ten_toDigits

section Writes

variable {digits : List Char} {width n : Nat} (h : Writes digits width n)
include h

theorem Writes.takeWhile (rest : List Char) : (digits ++ rest).takeWhile Char.isDigit =
    digits ++ rest.takeWhile Char.isDigit := List.takeWhile_append_of_pos h.isDigit

theorem Writes.readDigits (rest : List Char) :
    readDigits width width (digits ++ rest) = some (n, rest) := by
  have hrow : ((digits ++ rest).take width).takeWhile Char.isDigit = digits := by
    have hall := h.takeWhile []
    rw [List.append_nil, List.takeWhile_nil, List.append_nil] at hall
    rw [List.take_left' h.length, hall]
  rw [Instant.readDigits, hrow, if_pos h.length.ge, h.value, List.drop_left]

theorem Writes.readNanos (hwidth : 0 < width) (hmost : width ≤ 9) {c : Char}
    (hc : c.isDigit = false) (rest : List Char) :
    readNanos (digits ++ c :: rest) = some (n * 10 ^ (9 - width), c :: rest) := by
  have hrow : ((digits ++ c :: rest).take 9).takeWhile Char.isDigit = digits := by
    have hstop : ((c :: rest).take (9 - width)).takeWhile Char.isDigit = [] := by
      cases 9 - width with
      | zero => rfl
      | succ k => rw [List.take_succ_cons, List.takeWhile_cons_of_neg (by simp [hc])]
    rw [List.take_append, List.take_of_length_le (h.length.le.trans hmost), h.length, h.takeWhile,
      hstop, List.append_nil]
  have hne : digits.isEmpty = false := by
    rw [List.isEmpty_eq_false_iff, ← List.length_pos_iff, h.length]
    exact hwidth
  have hstop : (c :: rest).dropWhile Char.isDigit = c :: rest := by
    rw [List.dropWhile_cons_of_neg (by simp [hc])]
  rw [Instant.readNanos, hrow, hne, List.drop_left, hstop, h.length, h.value]
  rfl

end Writes

/-! ### Dates and times of day -/

theorem readChar_cons (c : Char) (rest : List Char) : readChar c (c :: rest) = some rest :=
  if_pos rfl

theorem readDate_text {year month day : Nat} (hyear : year < 10000) (hmonth : month < 100)
    (hday : day < 100) (rest : List Char) :
    readDate (padded 4 year ++ '-' :: (twoDigits month ++ '-' :: (twoDigits day ++ 'T' :: rest))) =
      some (⟨year, month, day⟩, rest) := by
  rw [readDate, (writes_padded (by decide) hyear).readDigits]
  simp only [bind, Option.bind, readChar_cons, (writes_twoDigits hmonth).readDigits,
    (writes_twoDigits hday).readDigits]

theorem readZoned_text (d : Date) {hour minute second millis : Nat} (hhour : hour < 100)
    (hminute : minute < 100) (hsecond : second < 100) (hmillis : millis < 1000) :
    readZoned d (twoDigits hour ++ ':' :: (twoDigits minute ++ ':' :: (twoDigits second ++
        '.' :: (padded 3 millis ++ ['Z'])))) =
      ofClock d ⟨hour, minute, second, millis * 10 ^ 6⟩ 0 := by
  rw [readZoned, (writes_twoDigits hhour).readDigits]
  simp only [bind, Option.bind, readChar_cons, (writes_twoDigits hminute).readDigits,
    (writes_twoDigits hsecond).readDigits, readFraction]
  rw [(writes_padded (by decide) hmillis).readNanos (by decide) (by decide) (by decide)]
  rfl

/-- The digits after the point of a shown second, and the second itself. -/
def shownSecond (t : Instant) : Nat := t.secondOfDay % 60 + (if 10 ^ 9 ≤ t.nanos then 1 else 0)

def shownMillis (t : Instant) : Nat :=
  (if 10 ^ 9 ≤ t.nanos then t.nanos - 10 ^ 9 else t.nanos) / 10 ^ 6

theorem toList_text {t : Instant} (h : t.IsShown) : t.text.toList =
    padded 4 t.date.year.toNat ++ '-' :: (twoDigits t.date.month ++ '-' :: (twoDigits t.date.day ++
      'T' :: (twoDigits (t.secondOfDay / 3600) ++ ':' :: (twoDigits (t.secondOfDay / 60 % 60) ++
        ':' :: (twoDigits t.shownSecond ++ '.' :: (padded 3 t.shownMillis ++ ['Z'])))))) := by
  rw [text, String.toList_ofList, yearText, if_pos h.year]
  simp only [List.append_assoc, List.cons_append, decide_eq_true_eq]
  rfl

theorem shownSecond_le (t : Instant) : t.shownSecond ≤ 60 := by
  unfold shownSecond
  split <;> omega

theorem shownMillis_lt {t : Instant} (h : t.IsShown) : t.shownMillis < 1000 := by
  have hnanos := h.nanos
  unfold shownMillis
  split <;> omega

/-- The clock of a shown instant tells the seconds of its day. -/
theorem ofClock_shown {t : Instant} (h : t.IsShown) {d : Date} (hd : d.isValid = true) :
    ofClock d ⟨t.secondOfDay / 3600, t.secondOfDay / 60 % 60, t.shownSecond,
        t.shownMillis * 10 ^ 6⟩ 0 =
      some ⟨d.toDays * 86400 + t.seconds % 86400, t.nanos / 10 ^ 6 * 10 ^ 6⟩ := by
  have hday : t.secondOfDay = (t.seconds % 86400).toNat := rfl
  have hvalid : ClockTime.isValid ⟨t.secondOfDay / 3600, t.secondOfDay / 60 % 60, t.shownSecond,
      t.shownMillis * 10 ^ 6⟩ = true := by
    have hhour : t.secondOfDay / 3600 ≤ 23 := by omega
    have hminute : t.secondOfDay / 60 % 60 ≤ 59 := by omega
    simp only [ClockTime.isValid, hhour, hminute, shownSecond_le, decide_true, Bool.and_true]
  rw [ofClock, hd, hvalid]
  by_cases hleap : 10 ^ 9 ≤ t.nanos
  · have hlast := h.leap hleap
    have hsecond : t.shownSecond = 60 := by
      rw [shownSecond, if_pos hleap]
      omega
    simp only [ofDate, shownMillis, hsecond, hleap, decide_true, if_true, Bool.and_self,
      Option.some.injEq, Instant.mk.injEq]
    omega
  · have hsecond : t.shownSecond = t.secondOfDay % 60 := by
      rw [shownSecond, if_neg hleap, Nat.add_zero]
    have hne : t.secondOfDay % 60 ≠ 60 := by omega
    simp only [ofDate, shownMillis, hne, hsecond, hleap, decide_false, if_true, if_false,
      Bool.and_self, Bool.false_eq_true, Option.some.injEq, Instant.mk.injEq, and_true]
    omega

/-- The text of an instant is read as the millisecond that it lies in. -/
theorem read?_text {t : Instant} (h : t.IsShown) : read? t.text = some t.toMillis := by
  have hvalid : t.date.isValid = true := Date.isValid_ofDays _
  have hdays : t.date.toDays = t.seconds / 86400 := Date.toDays_ofDays _
  have hyear := h.year
  have hday : t.secondOfDay = (t.seconds % 86400).toNat := rfl
  have hdate : (⟨t.date.year.toNat, t.date.month, t.date.day⟩ : Date) = t.date := by
    rw [Int.toNat_of_nonneg hyear.1]
  have hmonth := Date.month_le hvalid
  have hdayOfMonth := Date.day_le hvalid
  have hsecond := t.shownSecond_le
  have hseconds : t.seconds / 86400 * 86400 + t.seconds % 86400 = t.seconds :=
    Int.ediv_mul_add_emod _ _
  rw [read?, toList_text h, readDate_text (by omega) (by omega) (by omega)]
  simp only [bind, Option.bind]
  rw [readZoned_text _ (by omega) (by omega) (by omega) (shownMillis_lt h), hdate,
    ofClock_shown h hvalid, hdays, hseconds]
  rfl

theorem read?_text_of_isMillis {t : Instant} (h : t.IsShown) (hmillis : t.IsMillis) :
    read? t.text = some t := by
  have hnanos : t.nanos / 10 ^ 6 * 10 ^ 6 = t.nanos := Nat.div_mul_cancel (Nat.dvd_of_mod_eq_zero hmillis)
  have hsame : t.toMillis = t := by rw [toMillis, hnanos]
  rw [read?_text h, hsame]

/-! ### The order of milliseconds -/

theorem compare_eq_lt_iff {a b : Instant} : a.compare b = .lt ↔
    a.seconds < b.seconds ∨ a.seconds = b.seconds ∧ a.nanos < b.nanos := by
  rw [compare, Ordering.then_eq_lt, Int.compare_eq_lt, Int.compare_eq_eq, Nat.compare_eq_lt]

theorem compare_ne_gt_iff {a b : Instant} : a.compare b ≠ .gt ↔
    a.seconds < b.seconds ∨ a.seconds = b.seconds ∧ a.nanos ≤ b.nanos := by
  rw [← compare_swap b a, ne_eq, Ordering.swap_eq_gt, compare_eq_lt_iff]
  omega

theorem isMillis_toMillis (t : Instant) : t.toMillis.IsMillis := Nat.mul_mod_left _ _

theorem toMillis_of_isMillis {t : Instant} (h : t.IsMillis) : t.toMillis = t := by
  rw [toMillis, Nat.div_mul_cancel (Nat.dvd_of_mod_eq_zero h)]

theorem toMillis_not_gt (t : Instant) : t.toMillis.compare t ≠ .gt :=
  compare_ne_gt_iff.2 (.inr ⟨rfl, Nat.div_mul_le_self _ _⟩)

theorem toMillis_lt {t : Instant} (h : ¬t.IsMillis) : t.toMillis.compare t = .lt := by
  rw [compare_eq_lt_iff]
  rw [IsMillis] at h
  refine .inr ⟨rfl, ?_⟩
  show t.nanos / 10 ^ 6 * 10 ^ 6 < t.nanos
  omega

/-- No whole millisecond lies between an instant and its own. -/
theorem not_gt_toMillis {c t : Instant} (hc : c.IsMillis) (h : c.compare t = .lt) :
    c.compare t.toMillis ≠ .gt := by
  rw [compare_eq_lt_iff] at h
  rw [compare_ne_gt_iff]
  rw [IsMillis] at hc
  show c.seconds < t.seconds ∨ c.seconds = t.seconds ∧ c.nanos ≤ t.nanos / 10 ^ 6 * 10 ^ 6
  omega

theorem lt_of_not_gt_of_lt {a b c : Instant} (hab : a.compare b ≠ .gt) (hbc : b.compare c = .lt) :
    a.compare c = .lt := by
  rw [compare_ne_gt_iff] at hab
  rw [compare_eq_lt_iff] at hbc ⊢
  omega

theorem lt_of_lt_of_not_gt {a b c : Instant} (hab : a.compare b = .lt) (hbc : b.compare c ≠ .gt) :
    a.compare c = .lt := by
  rw [compare_ne_gt_iff] at hbc
  rw [compare_eq_lt_iff] at hab ⊢
  omega

end PagedFilter.Instant
