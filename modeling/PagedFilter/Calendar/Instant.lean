import PagedFilter.Calendar.Date

/-!
Instants in coordinated universal time: whole seconds from 1 January 1970 and nanoseconds within the
second. Nanoseconds from `10 ^ 9` on stand for a leap second that follows its second. The order is
by seconds, then by nanoseconds.
-/

namespace PagedFilter

structure Instant where
  seconds : Int
  nanos : Nat
  deriving DecidableEq, Inhabited, Repr

namespace Instant

def compare (a b : Instant) : Ordering :=
  (Ord.compare a.seconds b.seconds).then (Ord.compare a.nanos b.nanos)

/-- The instant of a date and a time of day, given in seconds since midnight. -/
def ofDate (d : Date) (secondOfDay : Int) (nanos : Nat) : Instant :=
  ⟨d.toDays * 86400 + secondOfDay, nanos⟩

def date (t : Instant) : Date := Date.ofDays (t.seconds / 86400)

def secondOfDay (t : Instant) : Nat := (t.seconds % 86400).toNat

theorem compare_self (a : Instant) : a.compare a = .eq := by
  simp [compare, Ordering.then]

theorem compare_swap (a b : Instant) : (a.compare b).swap = b.compare a := by
  have hs : (Ord.compare a.seconds b.seconds).swap = Ord.compare b.seconds a.seconds :=
    Std.OrientedCmp.eq_swap.symm
  have hn : (Ord.compare a.nanos b.nanos).swap = Ord.compare b.nanos a.nanos :=
    Std.OrientedCmp.eq_swap.symm
  rw [compare, compare, Ordering.swap_then, hs, hn]

theorem eq_of_compare {a b : Instant} (h : a.compare b = .eq) : a = b := by
  rw [compare, Ordering.then_eq_eq] at h
  have hs := Std.LawfulEqCmp.eq_of_compare h.1
  have hn := Std.LawfulEqCmp.eq_of_compare h.2
  cases a; cases b; simp_all

def twoDigits (n : Nat) : List Char := [Nat.digitChar (n / 10), Nat.digitChar (n % 10)]

def padded (width n : Nat) : List Char :=
  let cs := Nat.toDigits 10 n
  List.replicate (width - cs.length) '0' ++ cs

/-- Four digits from year 0 to year 9999, otherwise a sign and at least four digits. -/
def yearText (year : Int) : List Char :=
  if 0 ≤ year ∧ year ≤ 9999 then padded 4 year.toNat
  else (if year < 0 then '-' else '+') :: padded 4 year.natAbs

/-- Date and time to the millisecond, the rest of the second cut off, with `Z` for the zone.
A leap second is written as the sixtieth of its minute. -/
def text (t : Instant) : String :=
  let d := t.date
  let s := t.secondOfDay
  let leap := decide (10 ^ 9 ≤ t.nanos)
  let second := s % 60 + (if leap then 1 else 0)
  let nanos := if leap then t.nanos - 10 ^ 9 else t.nanos
  String.ofList (yearText d.year ++ '-' :: twoDigits d.month ++ '-' :: twoDigits d.day ++
    'T' :: twoDigits (s / 3600) ++ ':' :: twoDigits (s / 60 % 60) ++ ':' :: twoDigits second ++
    '.' :: padded 3 (nanos / 10 ^ 6) ++ ['Z'])

example : text ⟨1483228799, 1500000000⟩ = "2016-12-31T23:59:60.500Z" := by
  decide +kernel

end Instant

end PagedFilter
