import PagedFilter.Double.Basic

/-!
The shortest decimal text of a double. Among the decimals that read back as the double, those with
the fewest digits are kept, and of those the nearest one is written. `Style` decides where positional
notation ends; `Double.text` writes in the style of this library's own output.
-/

namespace PagedFilter.Double

/-- A decimal `digits * 10 ^ scale`. -/
structure Decimal where
  digits : Nat
  scale : Int
  deriving DecidableEq, Repr

/-- A positive number and the interval of reals that round to it, all over one denominator. -/
structure Interval where
  value : Nat
  low : Nat
  high : Nat
  denominator : Nat
  /-- Whether the two ends round to the number as well. -/
  closed : Bool

/-- The interval around a positive finite double. The gap below a power of two is half as wide. -/
def interval (x : Double) : Interval :=
  let m := x.significand
  let up := 2 ^ x.exponent.toNat
  let down := 2 ^ (-x.exponent).toNat
  let narrow := decide (m = 2 ^ 52) && decide (-1074 < x.exponent)
  { value := 4 * m * up
    low := (4 * m - (if narrow then 1 else 2)) * up
    high := (4 * m + 2) * up
    denominator := 4 * down
    closed := decide (m % 2 = 0) }

/-- Whether `digits * unit / denominator` lies in the interval, `unit` over `i.denominator`. -/
def Interval.holds (i : Interval) (digits num den : Nat) : Bool :=
  let point := digits * num
  if i.closed then decide (i.low * den ≤ point) && decide (point ≤ i.high * den)
  else decide (i.low * den < point) && decide (point < i.high * den)

/-- The better neighbour of the value on the grid of multiples of `10 ^ scale`, if one of the two
lies in the interval. -/
def Interval.onGrid? (i : Interval) (scale : Int) : Option Decimal :=
  let num := 10 ^ scale.toNat * i.denominator
  let den := 10 ^ (-scale).toNat
  let below := i.value * den / num
  let rest := i.value * den % num
  let lowFits := i.holds below num den && decide (0 < below)
  let highFits := i.holds (below + 1) num den
  let preferLow := decide (2 * rest < num) || (decide (2 * rest = num) && decide (below % 2 = 0))
  if lowFits && (preferLow || !highFits) then some ⟨below, scale⟩
  else if highFits then some ⟨below + 1, scale⟩ else none

/-- The largest `e` with `10 ^ e ≤ num / den`, searched downwards from `start`. -/
def floorLog10 (num den : Nat) : Nat → Int → Int
  | 0, e => e
  | fuel + 1, e =>
    let fits := if 0 ≤ e then decide (den * 10 ^ e.toNat ≤ num)
      else decide (den ≤ num * 10 ^ (-e).toNat)
    if fits then e else floorLog10 num den fuel (e - 1)

/-- Tries one digit, then two, and so on. Seventeen digits always tell two doubles apart. -/
def Interval.search (i : Interval) (top : Int) : Nat → Int → Decimal
  | 0, scale => (i.onGrid? scale).getD ⟨0, 0⟩
  | fuel + 1, scale => (i.onGrid? scale).getD (i.search top fuel (scale - 1))

/-- An upper estimate of the decimal exponent of the value. -/
def Interval.estimate (i : Interval) : Int :=
  ((i.value.log2 : Int) - (i.denominator.log2 : Int) + 2) * 30103 / 100000 + 1

def shortest (x : Double) : Decimal :=
  let i := x.interval
  let top := floorLog10 i.value i.denominator 8 i.estimate
  i.search top 17 top

/-- Where positional notation ends: the least and greatest decimal exponent written that way. -/
structure Style where
  least : Int
  greatest : Int
  deriving DecidableEq, Repr

/-- Positional from `0.00001` up to sixteen digits before the point. -/
def style : Style := ⟨-5, 15⟩

def dropTrailingZeros (cs : List Char) : List Char :=
  (cs.reverse.dropWhile (· == '0')).reverse

/-- Writes the digits `cs` with the point after `10 ^ e`, where `e` is the exponent of the first. -/
def Style.write (s : Style) (cs : List Char) (e : Int) : List Char :=
  if s.least ≤ e ∧ e ≤ s.greatest then
    if e < 0 then '0' :: '.' :: List.replicate ((-e).toNat - 1) '0' ++ cs
    else
      let whole := cs.take (e.toNat + 1)
      let rest := cs.drop (e.toNat + 1)
      whole ++ List.replicate (e.toNat + 1 - whole.length) '0' ++ '.' ::
        (if rest.isEmpty then ['0'] else rest)
  else
    let rest := cs.drop 1
    cs.take 1 ++ (if rest.isEmpty then [] else '.' :: rest) ++ 'e' ::
      (if e < 0 then '-' else '+') :: Nat.toDigits 10 e.natAbs

/-- The text of a finite double: a sign if negative, then its shortest decimal. -/
def text (x : Double) : String :=
  let sign := if x.negative then ['-'] else []
  let body :=
    if x.magnitude = 0 then ['0', '.', '0']
    else
      let d := x.shortest
      let cs := Nat.toDigits 10 d.digits
      style.write (dropTrailingZeros cs) ((cs.length : Int) - 1 + d.scale)
  String.ofList (sign ++ body)

end PagedFilter.Double
