/-!
Sets of code points as sorted lists of ranges, and maps between code points as lists of shifts.
-/

namespace PagedFilter.Text

/-- Ranges of code points in increasing order, both ends included. -/
abbrev Ranges := List (Nat × Nat)

/-- Membership; the search ends at the first range above the code point. -/
def Ranges.holds : Ranges → Nat → Bool
  | [], _ => false
  | (low, high) :: rest, n =>
    if n < low then false else decide (n ≤ high) || Ranges.holds rest n

/-- Every `step`-th code point from `low` to `high`. -/
structure Span where
  low : Nat
  high : Nat
  step : Nat
  deriving DecidableEq, Repr

def Span.holds (s : Span) (n : Nat) : Bool :=
  decide (s.low ≤ n) && decide (n ≤ s.high) && decide ((n - s.low) % s.step = 0)

def Span.points (s : Span) : List Nat :=
  if s.low ≤ s.high then
    (List.range ((s.high - s.low) / s.step + 1)).map fun i => s.low + i * s.step
  else []

/-- Moves every code point of a span by one distance. -/
structure Shift where
  span : Span
  distance : Int
  deriving DecidableEq, Repr

/-- Where a code point of the span is moved. -/
def Shift.moved (s : Shift) (n : Nat) : Nat := (n + s.distance).toNat

/-- The image of a code point: the first shift that holds it moves it, others leave it. -/
def Shift.apply : List Shift → Nat → Nat
  | [], n => n
  | s :: rest, n => if s.span.holds n then s.moved n else Shift.apply rest n

/-- The code points that some shift moves to `n`. -/
def Shift.sources (shifts : List Shift) (n : Nat) : List Nat :=
  shifts.filterMap fun s =>
    let m : Int := n - s.distance
    if 0 ≤ m ∧ s.span.holds m.toNat then some m.toNat else none

theorem Ranges.holds_singleton (low high n : Nat) :
    Ranges.holds [(low, high)] n = (decide (low ≤ n) && decide (n ≤ high)) := by
  by_cases h : n < low
  · simp [Ranges.holds, h, Nat.not_le.2 h]
  · simp [Ranges.holds, h, Nat.not_lt.1 h]

theorem Shift.apply_of_not_holds (shifts : List Shift) (n : Nat)
    (h : ∀ s ∈ shifts, s.span.holds n = false) : Shift.apply shifts n = n := by
  induction shifts with
  | nil => rfl
  | cons s rest ih =>
    simp only [Shift.apply, h s (by simp)]
    exact ih fun t ht => h t (by simp [ht])

end PagedFilter.Text
