import PagedFilter.Double.Basic

/-!
The double nearest to a ratio of natural numbers. A tie goes to the even neighbour, and what lies
half a unit or more beyond the largest double becomes infinite.
-/

namespace PagedFilter.Double

/-- The integer nearest to `num / den`, the even one of two at the same distance. -/
def roundHalfEven (num den : Nat) : Nat :=
  let whole := num / den
  let twice := 2 * (num % den)
  if twice < den then whole
  else if den < twice then whole + 1
  else if whole % 2 = 0 then whole else whole + 1

/-- The largest `e` with `2 ^ e ≤ num / den`, for a positive ratio. -/
def floorLog2 (num den : Nat) : Int :=
  let guess : Int := (num.log2 : Int) - (den.log2 : Int)
  let fits := if 0 ≤ guess then decide (den * 2 ^ guess.toNat ≤ num)
    else decide (den ≤ num * 2 ^ (-guess).toNat)
  if fits then guess else guess - 1

/-- The magnitude word of the double nearest to `num / den`. The significand has 53 bits, fewer
below the smallest normal number; a carry out of it moves into the exponent by itself. -/
def nearestWord (num den : Nat) : Nat :=
  if num = 0 then 0
  else
    let place := max (-1074) (floorLog2 num den - 52)
    let significand :=
      if 0 ≤ place then roundHalfEven num (den * 2 ^ place.toNat)
      else roundHalfEven (num * 2 ^ (-place).toNat) den
    min infinityWord ((place + 1074).toNat * 2 ^ 52 + significand)

def ofInt (n : Int) : Double := ofMagnitude (decide (n < 0)) (nearestWord n.natAbs 1)

/-- How many digits a number has in base ten, none for zero. -/
def digitCount (n : Nat) : Nat := if n = 0 then 0 else (Nat.toDigits 10 n).length

/-- The double nearest to `digits * 10 ^ scale` with the given sign, if it is finite. The two early
answers keep the powers of ten small: past them the result no longer depends on the digits. -/
def ofDecimal (negative : Bool) (digits : Nat) (scale : Int) : Option Double :=
  let top : Int := (digitCount digits : Int) + scale
  let word :=
    if digits = 0 ∨ top < -330 then 0
    else if 310 < top then infinityWord
    else if 0 ≤ scale then nearestWord (digits * 10 ^ scale.toNat) 1
    else nearestWord digits (10 ^ (-scale).toNat)
  if word < infinityWord then some (ofMagnitude negative word) else none

theorem roundHalfEven_one (num : Nat) : roundHalfEven num 1 = num := by
  simp [roundHalfEven, Nat.mod_one]

theorem roundHalfEven_mul (q den : Nat) (h : 0 < den) : roundHalfEven (q * den) den = q := by
  simp [roundHalfEven, Nat.mul_div_cancel _ h, h]

/-- Two neighbouring integers beyond the significand's width meet in one double. -/
example : ofInt (2 ^ 53 + 1) = ofInt (2 ^ 53) := by decide

end PagedFilter.Double
