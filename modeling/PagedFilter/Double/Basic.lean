/-!
Binary floating-point numbers of 64 bits, held as their words. A word is split into sign, exponent
and fraction, and every operation is exact arithmetic on those parts. The order puts each number at
its real value, both zeros at one place and whatever is not a number above positive infinity.
-/

namespace PagedFilter

/-- A double, told apart from every other one by its word alone. -/
structure Double where
  bits : UInt64
  deriving DecidableEq, Inhabited, Repr

namespace Double

/-- The word of positive infinity; larger magnitudes are not numbers. -/
def infinityWord : Nat := 2047 * 2 ^ 52

def negative (x : Double) : Bool := decide (2 ^ 63 ≤ x.bits.toNat)

def magnitude (x : Double) : Nat := x.bits.toNat % 2 ^ 63

def isNaN (x : Double) : Bool := decide (infinityWord < x.magnitude)

def isFinite (x : Double) : Bool := decide (x.magnitude < infinityWord)

/-- The integer `m` of the value `m * 2 ^ q`, hidden bit included. -/
def significand (x : Double) : Nat :=
  if x.magnitude / 2 ^ 52 = 0 then x.magnitude % 2 ^ 52 else 2 ^ 52 + x.magnitude % 2 ^ 52

/-- The integer `q` of the value `m * 2 ^ q`. -/
def exponent (x : Double) : Int :=
  if x.magnitude / 2 ^ 52 = 0 then -1074 else (x.magnitude / 2 ^ 52 : Nat) - 1075

/-- The place of a double in the order: magnitudes grow with the value they stand for. -/
def rank (x : Double) : Int :=
  if x.isNaN then 2 ^ 63 else if x.negative then -x.magnitude else x.magnitude

def compare (x y : Double) : Ordering := Ord.compare x.rank y.rank

/-- Numeric equality: the zeros are equal and what is not a number equals nothing. -/
def numericEq (x y : Double) : Bool := !x.isNaN && !y.isNaN && decide (x.rank = y.rank)

/-- The double with the given sign and magnitude word. -/
def ofMagnitude (negative : Bool) (word : Nat) : Double :=
  ⟨UInt64.ofNat (if negative then 2 ^ 63 + word else word)⟩

def zero : Double := ⟨0⟩

def negativeZero : Double := ofMagnitude true 0

def isIntegral (x : Double) : Bool :=
  x.isFinite && (decide (0 ≤ x.exponent) || decide (x.significand % 2 ^ (-x.exponent).toNat = 0))

def truncate (x : Double) : Int :=
  let size : Nat :=
    if 0 ≤ x.exponent then x.significand * 2 ^ x.exponent.toNat
    else x.significand / 2 ^ (-x.exponent).toNat
  if x.negative then -size else size

theorem compare_self (x : Double) : x.compare x = .eq := by
  simp [compare]

theorem compare_swap (x y : Double) : (x.compare y).swap = y.compare x := by
  simp only [compare]
  exact Std.OrientedCmp.eq_swap.symm

theorem compare_eq_iff (x y : Double) : x.compare y = .eq ↔ x.rank = y.rank := by
  simp [compare]

example : negativeZero.compare zero = .eq := by decide

theorem numericEq_of_isNaN (x y : Double) (h : x.isNaN = true) : x.numericEq y = false := by
  simp [numericEq, h]

end Double

end PagedFilter
