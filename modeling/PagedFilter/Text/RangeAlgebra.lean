import PagedFilter.Text.Folding

/-!
The algebra of ranges of characters: union, intersection, complement and closure under case. Ranges
that touch are joined, so a set of characters has one list of ranges. Surrogates are in no range.
-/

namespace PagedFilter.Text.Ranges

def full : Ranges := [(0, 0xD7FF), (0xE000, 0x10FFFF)]

/-- Joins the ranges that overlap or touch, in order of their low ends. -/
def joined : Ranges → Ranges
  | [] => []
  | r :: rest => join r rest
where
  /-- Joins a range with those after it. -/
  join (r : Nat × Nat) : Ranges → Ranges
    | [] => [r]
    | s :: rest => if s.1 ≤ r.2 + 1 then join (r.1, max r.2 s.2) rest else r :: join s rest

def union (a b : Ranges) : Ranges := joined (List.merge a b (·.1 ≤ ·.1))

/-- The ranges between the given ones, from `n` on. -/
def gaps (n : Nat) : Ranges → Ranges
  | [] => if n ≤ 0x10FFFF then [(n, 0x10FFFF)] else []
  | (low, high) :: rest =>
    if n < low then (n, low - 1) :: gaps (high + 1) rest else gaps (high + 1) rest

/-- The part of a range below the surrogates and the part above them. -/
def besideSurrogates (r : Nat × Nat) : Ranges :=
  [(r.1, min r.2 0xD7FF), (max r.1 0xE000, r.2)].filter fun s => s.1 ≤ s.2

def characters (a : Ranges) : Ranges := a.flatMap besideSurrogates

/-- All characters that are in no range. -/
def complement (a : Ranges) : Ranges := characters (gaps 0 a)

def inter (a b : Ranges) : Ranges := complement (union (complement a) (complement b))

/-- Single code points, in any order, as ranges. -/
def ofPoints (ns : List Nat) : Ranges := joined ((ns.mergeSort (· ≤ ·)).map fun n => (n, n))

/-- Whether some range has a point from `low` to `high`. -/
def meets (a : Ranges) (low high : Nat) : Bool := a.any fun r => r.1 ≤ high && low ≤ r.2

/-- The folds that a shift gives to members. -/
def foldsBy (a : Ranges) (s : Shift) : List Nat :=
  if a.meets s.span.low s.span.high then (s.span.points.filter a.holds).map s.moved else []

/-- The characters to which a shift gives members as folds. -/
def unfoldedBy (a : Ranges) (s : Shift) : List Nat :=
  if a.meets (s.moved s.span.low) (s.moved s.span.high) then
    s.span.points.filter fun n => a.holds (s.moved n)
  else []

def withFolds (a : Ranges) : Ranges := union a (ofPoints (foldShifts.flatMap a.foldsBy))

/-- Adds all characters whose fold is a member. -/
def withUnfolded (a : Ranges) : Ranges := union a (ofPoints (foldShifts.flatMap a.unfoldedBy))

/-- All characters that fold to the same character as a member. -/
def folded (a : Ranges) : Ranges := withUnfolded (withFolds a)

theorem complement_nil : complement [] = full := by decide

theorem complement_full : complement full = [] := by decide

example : union [(0x61, 0x63)] [(0x64, 0x66)] = [(0x61, 0x66)] := by
  simp [union, joined, joined.join]

end PagedFilter.Text.Ranges
