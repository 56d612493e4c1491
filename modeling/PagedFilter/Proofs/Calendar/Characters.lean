import Mathlib.Data.List.TakeWhile
import PagedFilter.Calendar.Reader

/-!
The characters of date-times: digits, blanks and a few marks. Reading takes nothing else, so a text
with any other letter is none.
-/

namespace PagedFilter.Instant

/-- Whether a character may stand in a date-time. -/
def isDateChar (c : Char) : Bool :=
  c.isDigit || Text.isBlank c || ['-', ':', '.', '+', '\u2212', 'T', 'Z', 'z'].contains c

theorem isDateChar_of_isDigit {c : Char} (h : c.isDigit = true) : isDateChar c = true := by
  rw [isDateChar, h]
  rfl

theorem isDateChar_of_isBlank {c : Char} (h : Text.isBlank c = true) : isDateChar c = true := by
  rw [isDateChar, h, Bool.or_true]
  rfl

/-! ### Steps -/

section Steps

variable {cs rest : List Char} (hrest : rest.all isDateChar = true)
include hrest

theorem all_of_dropWhile {p : Char → Bool} (hp : ∀ c, p c = true → isDateChar c = true)
    (h : cs.dropWhile p = rest) : cs.all isDateChar = true := by
  have htaken : (cs.takeWhile p).all isDateChar = true :=
    List.all_eq_true.2 fun c hc => hp c (List.mem_takeWhile_imp hc)
  rw [← List.takeWhile_append_dropWhile (p := p) (l := cs), List.all_append, htaken, h, hrest]
  rfl

/-- A row of digits in front of the rest. -/
theorem all_of_drop_digits {n : Nat}
    (h : cs.drop ((cs.take n).takeWhile Char.isDigit).length = rest) :
    cs.all isDateChar = true := by
  have hpart : ((cs.take n).takeWhile Char.isDigit) <+: cs :=
    (List.takeWhile_prefix _).trans (List.take_prefix n cs)
  have hdigits : ((cs.take n).takeWhile Char.isDigit).all isDateChar = true :=
    List.all_eq_true.2 fun c hc => isDateChar_of_isDigit (List.mem_takeWhile_imp hc)
  rw [← List.take_append_drop ((cs.take n).takeWhile Char.isDigit).length cs, List.all_append,
    ← List.prefix_iff_eq_take.1 hpart, hdigits, h, hrest]
  rfl

theorem all_of_readDigits {least most n : Nat} (h : readDigits least most cs = some (n, rest)) :
    cs.all isDateChar = true := by
  simp only [readDigits, Option.ite_none_right_eq_some, Option.some.injEq, Prod.mk.injEq] at h
  exact all_of_drop_digits hrest h.2.2

theorem all_of_readLoose {n : Nat} (h : readLoose cs = some (n, rest)) :
    cs.all isDateChar = true :=
  all_of_dropWhile (all_of_readDigits hrest h) (fun _ => isDateChar_of_isBlank) rfl

theorem all_of_readChar {c : Char} (hc : isDateChar c = true) (h : readChar c cs = some rest) :
    cs.all isDateChar = true := by
  cases cs with
  | nil => cases h
  | cons d ds =>
    simp only [readChar, Option.ite_none_right_eq_some, Option.some.injEq] at h
    rw [List.all_cons, h.1, hc, h.2, hrest]
    rfl

theorem all_of_readFraction {n : Nat} (h : readFraction cs = some (n, rest)) :
    cs.all isDateChar = true := by
  unfold readFraction at h
  split at h
  · simp only [readNanos, Option.ite_none_left_eq_some, Option.some.injEq, Prod.mk.injEq] at h
    have hdigits := all_of_dropWhile hrest (fun _ => isDateChar_of_isDigit) h.2.2
    rw [List.all_cons, all_of_drop_digits hdigits rfl]
    rfl
  · rw [Option.some.injEq, Prod.mk.injEq] at h
    rw [h.2, hrest]

theorem all_of_readZone {offset : Int} (h : readZone cs = some (offset, rest)) :
    cs.all isDateChar = true := by
  cases cs with
  | nil => cases h
  | cons c ds =>
    rw [readZone] at h
    split at h
    · next hc =>
      rw [Option.some.injEq, Prod.mk.injEq] at h
      rw [List.all_cons, h.2, hrest]
      rcases hc with rfl | rfl <;> rfl
    · split at h
      · next hc =>
        obtain ⟨⟨hours, cs₁⟩, hhours, h⟩ := Option.bind_eq_some_iff.1 h
        obtain ⟨cs₂, hcolon, h⟩ := Option.bind_eq_some_iff.1 h
        obtain ⟨⟨minutes, cs₃⟩, hminutes, h⟩ := Option.bind_eq_some_iff.1 h
        simp only [Option.ite_none_right_eq_some, Option.some.injEq, Prod.mk.injEq] at h
        have hminutes := all_of_readDigits (h.2.2 ▸ hrest) hminutes
        have hhours := all_of_readDigits (all_of_readChar hminutes rfl hcolon) hhours
        rw [List.all_cons, hhours]
        rcases hc with rfl | rfl | rfl <;> rfl
      · cases h

end Steps

/-! ### Date-times -/

section Clock

variable {d : Date} {cs : List Char} {t : Instant}

theorem all_of_readZoned (h : readZoned d cs = some t) : cs.all isDateChar = true := by
  obtain ⟨⟨hour, cs₁⟩, hhour, h⟩ := Option.bind_eq_some_iff.1 h
  obtain ⟨cs₂, hcolon, h⟩ := Option.bind_eq_some_iff.1 h
  obtain ⟨⟨minute, cs₃⟩, hminute, h⟩ := Option.bind_eq_some_iff.1 h
  obtain ⟨cs₄, hcolon', h⟩ := Option.bind_eq_some_iff.1 h
  obtain ⟨⟨second, cs₅⟩, hsecond, h⟩ := Option.bind_eq_some_iff.1 h
  obtain ⟨⟨nanos, cs₆⟩, hnanos, h⟩ := Option.bind_eq_some_iff.1 h
  obtain ⟨⟨offset, cs₇⟩, hzone, h⟩ := Option.bind_eq_some_iff.1 h
  have hend : cs₇.all isDateChar = true := by
    simp only [Option.ite_none_right_eq_some, List.isEmpty_iff] at h
    rw [h.1]
    rfl
  have hnanos := all_of_readFraction (all_of_readZone hend hzone) hnanos
  have hsecond := all_of_readChar (all_of_readDigits hnanos hsecond) rfl hcolon'
  exact all_of_readDigits (all_of_readChar (all_of_readDigits hsecond hminute) rfl hcolon) hhour

theorem all_of_readSeconds (h : readSeconds d cs = some t) : cs.all isDateChar = true := by
  obtain ⟨⟨hour, cs₁⟩, hhour, h⟩ := Option.bind_eq_some_iff.1 h
  obtain ⟨cs₂, hcolon, h⟩ := Option.bind_eq_some_iff.1 h
  obtain ⟨⟨minute, cs₃⟩, hminute, h⟩ := Option.bind_eq_some_iff.1 h
  obtain ⟨cs₄, hcolon', h⟩ := Option.bind_eq_some_iff.1 h
  obtain ⟨⟨second, cs₅⟩, hsecond, h⟩ := Option.bind_eq_some_iff.1 h
  obtain ⟨⟨nanos, cs₆⟩, hnanos, h⟩ := Option.bind_eq_some_iff.1 h
  have hend : cs₆.all isDateChar = true := by
    simp only [Option.ite_none_right_eq_some, List.isEmpty_iff] at h
    rw [h.1]
    rfl
  have hsecond := all_of_readLoose (all_of_readFraction hend hnanos) hsecond
  have hminute := all_of_readLoose (all_of_readChar hsecond rfl hcolon') hminute
  exact all_of_readLoose (all_of_readChar hminute rfl hcolon) hhour

theorem all_of_readMinutes (h : readMinutes d cs = some t) : cs.all isDateChar = true := by
  obtain ⟨⟨hour, cs₁⟩, hhour, h⟩ := Option.bind_eq_some_iff.1 h
  obtain ⟨cs₂, hcolon, h⟩ := Option.bind_eq_some_iff.1 h
  obtain ⟨⟨minute, cs₃⟩, hminute, h⟩ := Option.bind_eq_some_iff.1 h
  have hend : cs₃.all isDateChar = true := by
    simp only [Option.ite_none_right_eq_some, List.isEmpty_iff] at h
    rw [h.1]
    rfl
  exact all_of_readLoose (all_of_readChar (all_of_readLoose hend hminute) rfl hcolon) hhour

end Clock

/-- A date-time is made of digits, blanks and the marks of dates, times and zones. -/
theorem all_isDateChar_of_read? {s : String} {t : Instant} (h : read? s = some t) :
    s.toList.all isDateChar = true := by
  obtain ⟨⟨d, cs⟩, hdate, h⟩ := Option.bind_eq_some_iff.1 h
  have hclock : cs.all isDateChar = true := by
    cases hzoned : readZoned d cs with
    | some _ => exact all_of_readZoned hzoned
    | none =>
      cases hseconds : readSeconds d cs with
      | some _ => exact all_of_readSeconds hseconds
      | none =>
        simp only [hzoned, hseconds] at h
        exact all_of_readMinutes h
  obtain ⟨⟨year, cs₁⟩, hyear, hdate⟩ := Option.bind_eq_some_iff.1 hdate
  obtain ⟨cs₂, hdash, hdate⟩ := Option.bind_eq_some_iff.1 hdate
  obtain ⟨⟨month, cs₃⟩, hmonth, hdate⟩ := Option.bind_eq_some_iff.1 hdate
  obtain ⟨cs₄, hdash', hdate⟩ := Option.bind_eq_some_iff.1 hdate
  obtain ⟨⟨day, cs₅⟩, hday, hdate⟩ := Option.bind_eq_some_iff.1 hdate
  obtain ⟨cs₆, hmark, hdate⟩ := Option.bind_eq_some_iff.1 hdate
  rw [Option.some.injEq, Prod.mk.injEq] at hdate
  have hday := all_of_readDigits (all_of_readChar (hdate.2 ▸ hclock) rfl hmark) hday
  have hmonth := all_of_readDigits (all_of_readChar hday rfl hdash') hmonth
  exact all_of_readDigits (all_of_readChar hmonth rfl hdash) hyear

end PagedFilter.Instant
