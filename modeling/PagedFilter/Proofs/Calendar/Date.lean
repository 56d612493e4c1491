import Mathlib.Tactic.IntervalCases
import PagedFilter.Calendar.Date

/-!
The date of a day. An era of 400 years is cut into centuries, fours of years and years, of which only
the last in each row is longer; every day has a date of the calendar, and the date counts to that day.
-/

namespace PagedFilter.Date

/-- The year of a day within an era. -/
def yearOfEra (d : Nat) : Nat := (d - d / 1460 + d / 36524 - d / 146096) / 365

/-- The days of an era in front of one of its years. -/
def daysBeforeYear (y : Nat) : Nat := 365 * y + y / 4 - y / 100

/-- The month of a day within a year, counted from March as 0. -/
def monthOfYear (d : Nat) : Nat := (5 * d + 2) / 153

/-! ### Years of an era -/

/-- The day `s` of the four years `q` of the century `c`. -/
theorem yearOfEra_eq {c q s : Nat} (_ : c < 4) (_ : q < 25) (_ : s < 1461)
    (_ : 1461 * q + s < 36524) :
    yearOfEra (36524 * c + 1461 * q + s) = 100 * c + 4 * q + min 3 (s / 365) := by
  have hera : (36524 * c + 1461 * q + s) / 146096 = 0 := by omega
  have hcentury : (36524 * c + 1461 * q + s) / 36524 = c := by omega
  have hleap : (36524 * c + 1461 * q + s) / 1460 =
      25 * c + q + (24 * c + q + s) / 1460 := by omega
  rw [yearOfEra, hera, hcentury, hleap]
  omega

theorem daysBeforeYear_eq (c : Nat) {q k : Nat} (hq : q < 25) (hk : k < 4) :
    daysBeforeYear (100 * c + 4 * q + k) = 36524 * c + 1461 * q + 365 * k := by
  unfold daysBeforeYear
  omega

/-- What holds of a day in its year of an era: the day does not come before the year, and a year has
a 366th day only if the February at its end has 29. -/
structure LiesIn (d y : Nat) : Prop where
  year : y < 400
  first : daysBeforeYear y ≤ d
  last : d - daysBeforeYear y ≤ 365
  leap : d - daysBeforeYear y = 365 → (y + 1) % 4 = 0 ∧ ((y + 1) % 100 ≠ 0 ∨ y + 1 = 400)

theorem liesIn_yearOfEra {d : Nat} (h : d < 146097) : LiesIn d (yearOfEra d) := by
  by_cases hlast : d = 146096
  · -- The last day of the era is one more than its centuries have.
    subst hlast
    exact ⟨by decide, by decide, by decide, by decide⟩
  · have hd : d = 36524 * (d / 36524) + 1461 * (d % 36524 / 1461) + d % 36524 % 1461 := by omega
    have hc : d / 36524 < 4 := by omega
    have hq : d % 36524 / 1461 < 25 := by omega
    have hs : d % 36524 % 1461 < 1461 := by omega
    generalize d / 36524 = c at *
    generalize hq' : d % 36524 / 1461 = q at *
    generalize hs' : d % 36524 % 1461 = s at *
    have hrest : 1461 * q + s < 36524 := by omega
    have hk : min 3 (s / 365) < 4 := by omega
    rw [hd, yearOfEra_eq hc hq hs hrest]
    have hstart := daysBeforeYear_eq c hq hk
    constructor <;> omega

/-! ### Dates -/

/-- The day `d` of a year that begins in March lies in a month of it. -/
theorem daysBeforeMonth_le {d : Nat} (h : d ≤ 365) : monthOfYear d < 12 ∧
    daysBeforeMonth (monthOfYear d) ≤ d ∧ d < daysBeforeMonth (monthOfYear d + 1) := by
  unfold daysBeforeMonth monthOfYear
  omega

/-- A day of a month, both counted from 0 and the months from March. -/
def ofMarch (year : Int) (month day : Nat) : Date :=
  if month < 10 then ⟨year, month + 3, day + 1⟩ else ⟨year + 1, month - 9, day + 1⟩

theorem toDays_ofMarch (era : Int) {y month : Nat} (hy : y < 400) (hmonth : month < 12)
    (day : Nat) : (ofMarch (era * 400 + y) month day).toDays =
      era * 146097 + (daysBeforeYear y + daysBeforeMonth month + day : Nat) - 719468 := by
  have hearly : (month + 3 + 9) % 12 = month := by omega
  have hlate : 10 ≤ month → (month - 9 + 9) % 12 = month := by omega
  unfold ofMarch toDays daysBeforeYear
  split
  · simp only [hearly]
    split <;> omega
  · simp only [hlate (by omega)]
    split <;> omega

/-- A month other than February is as long as the counts to it and to the next one say. -/
theorem daysInMonth_ofMarch (year : Int) {month : Nat} (h : month < 11) (day : Nat) :
    daysInMonth (ofMarch year month day).year (ofMarch year month day).month =
      daysBeforeMonth (month + 1) - daysBeforeMonth month := by
  interval_cases month <;> rfl

theorem isValid_ofMarch (year : Int) {month day : Nat} (hmonth : month < 12)
    (h : daysBeforeMonth month + day < daysBeforeMonth (month + 1))
    (hleap : daysBeforeMonth month + day < 365 ∨
      daysBeforeMonth month + day = 365 ∧ isLeapYear (year + 1) = true) :
    (ofMarch year month day).isValid = true := by
  have hlength : day < daysInMonth (ofMarch year month day).year (ofMarch year month day).month := by
    by_cases hfebruary : month = 11
    · subst hfebruary
      rw [ofMarch, if_neg (by decide), daysInMonth, if_pos rfl]
      rcases hleap with hday | ⟨hday, hleap⟩
      · have hday : day < 28 := by
          rw [daysBeforeMonth] at hday
          omega
        show day < if isLeapYear (year + 1) = true then 29 else 28
        split <;> omega
      · have hday : day = 28 := by
          rw [daysBeforeMonth] at hday
          omega
        show day < if isLeapYear (year + 1) = true then 29 else 28
        rw [hleap, hday]
        decide
    · rw [daysInMonth_ofMarch year (by omega) day]
      omega
  have hday : (ofMarch year month day).day = day + 1 := by
    unfold ofMarch
    split <;> rfl
  have hnumber : 1 ≤ (ofMarch year month day).month ∧ (ofMarch year month day).month ≤ 12 := by
    unfold ofMarch
    split <;> simp <;> omega
  simp only [isValid, Bool.and_eq_true, decide_eq_true_eq]
  omega

theorem ofDays_eq (n : Int) : ∃ d : Nat, d < 146097 ∧ n = (n + 719468) / 146097 * 146097 + d - 719468 ∧
    ofDays n = ofMarch ((n + 719468) / 146097 * 400 + yearOfEra d)
      (monthOfYear (d - daysBeforeYear (yearOfEra d)))
      (d - daysBeforeYear (yearOfEra d) -
        daysBeforeMonth (monthOfYear (d - daysBeforeYear (yearOfEra d)))) := by
  refine ⟨((n + 719468) % 146097).toNat, by omega, by omega, rfl⟩

theorem toDays_ofDays (n : Int) : (ofDays n).toDays = n := by
  obtain ⟨d, hd, hn, hofDays⟩ := ofDays_eq n
  have hyear := liesIn_yearOfEra hd
  obtain ⟨hmonth, hfirst, _⟩ := daysBeforeMonth_le hyear.last
  rw [hofDays, toDays_ofMarch _ hyear.year hmonth]
  have := hyear.first
  omega

theorem isValid_ofDays (n : Int) : (ofDays n).isValid = true := by
  obtain ⟨d, hd, _, hofDays⟩ := ofDays_eq n
  have hyear := liesIn_yearOfEra hd
  obtain ⟨hmonth, hfirst, hlast⟩ := daysBeforeMonth_le hyear.last
  rw [hofDays]
  apply isValid_ofMarch _ hmonth
  · omega
  · by_cases hday : d - daysBeforeYear (yearOfEra d) = 365
    · have hleap := hyear.leap hday
      refine .inr ⟨by omega, ?_⟩
      simp only [isLeapYear, Bool.and_eq_true, Bool.or_eq_true, decide_eq_true_eq]
      omega
    · have hshort := hyear.last
      exact .inl (by omega)

theorem month_le {d : Date} (h : d.isValid = true) : d.month ≤ 12 := by
  simp only [isValid, Bool.and_eq_true, decide_eq_true_eq] at h
  exact h.1.1.2

theorem daysInMonth_le (year : Int) (month : Nat) : daysInMonth year month ≤ 31 := by
  unfold daysInMonth
  split <;> split <;> decide

theorem day_le {d : Date} (h : d.isValid = true) : d.day ≤ 31 := by
  simp only [isValid, Bool.and_eq_true, decide_eq_true_eq] at h
  exact h.2.trans (daysInMonth_le _ _)

end PagedFilter.Date
