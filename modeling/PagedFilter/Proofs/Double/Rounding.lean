import PagedFilter.Double.Rounding

/-!
Integers as doubles. Rounding keeps the order of integers, but not strictly: above `2 ^ 53` several
integers share a double. Up to there each integer has a double of its own.
-/

namespace PagedFilter.Double

/-! ### Rounding a ratio -/

section RoundHalfEven

variable {a b den : Nat}

theorem le_roundHalfEven : a / den ≤ roundHalfEven a den := by
  simp only [roundHalfEven]
  split <;> (try split) <;> (try split) <;> omega

theorem roundHalfEven_le : roundHalfEven a den ≤ a / den + 1 := by
  simp only [roundHalfEven]
  split <;> (try split) <;> (try split) <;> omega

theorem roundHalfEven_mono (h : a ≤ b) : roundHalfEven a den ≤ roundHalfEven b den := by
  rcases Nat.lt_or_eq_of_le (Nat.div_le_div_right (c := den) h) with hlt | heq
  · exact Nat.le_trans roundHalfEven_le (Nat.le_trans hlt le_roundHalfEven)
  · -- of two ratios over the same integer the greater has the greater remainder
    have hrest : a % den ≤ b % den := by
      have ha := Nat.div_add_mod a den
      have hb := Nat.div_add_mod b den
      rw [heq] at ha
      omega
    simp only [roundHalfEven, heq]
    grind

end RoundHalfEven

/-! ### Words of integers -/

/-- The 53 leading bits of an integer, rounded. -/
def leadingBits (n : Nat) : Nat := roundHalfEven (n * 2 ^ (52 - n.log2)) (2 ^ (n.log2 - 52))

theorem floorLog2_one {n : Nat} (hn : n ≠ 0) : floorLog2 n 1 = n.log2 := by
  have hone : Nat.log2 1 = 0 := rfl
  have hfits : 2 ^ n.log2 ≤ n := Nat.log2_self_le hn
  simp [floorLog2, hone, hfits]

theorem nearestWord_one {n : Nat} (hn : n ≠ 0) :
    nearestWord n 1 = min infinityWord ((n.log2 + 1022) * 2 ^ 52 + leadingBits n) := by
  have hplace : max (-1074) ((n.log2 : Int) - 52) = n.log2 - 52 := by omega
  have hexponent : ((n.log2 : Int) - 52 + 1074).toNat = n.log2 + 1022 := by omega
  simp only [nearestWord, if_neg hn, floorLog2_one hn, hplace, hexponent, leadingBits]
  by_cases hlong : 52 ≤ n.log2
  · have hden : ((n.log2 : Int) - 52).toNat = n.log2 - 52 := by omega
    rw [if_pos (by omega), hden, Nat.sub_eq_zero_of_le hlong, Nat.one_mul, Nat.pow_zero,
      Nat.mul_one]
  · have hnum : (-((n.log2 : Int) - 52)).toNat = 52 - n.log2 := by omega
    have hden : n.log2 - 52 = 0 := by omega
    rw [if_neg (by omega), hnum, hden, Nat.pow_zero]

theorem log2_mono {m n : Nat} (hm : m ≠ 0) (h : m ≤ n) : m.log2 ≤ n.log2 := by
  have hn : n ≠ 0 := by omega
  exact (Nat.le_log2 hn).2 (Nat.le_trans (Nat.log2_self_le hm) h)

theorem le_leadingBits {n : Nat} (hn : n ≠ 0) : 2 ^ 52 ≤ leadingBits n := by
  refine Nat.le_trans ((Nat.le_div_iff_mul_le (Nat.two_pow_pos _)).2 ?_) le_roundHalfEven
  calc 2 ^ 52 * 2 ^ (n.log2 - 52) = 2 ^ n.log2 * 2 ^ (52 - n.log2) := by
        rw [← Nat.pow_add, ← Nat.pow_add]
        congr 1
        omega
    _ ≤ n * 2 ^ (52 - n.log2) := Nat.mul_le_mul_right _ (Nat.log2_self_le hn)

theorem scaled_lt (n : Nat) : n * 2 ^ (52 - n.log2) < 2 ^ 53 * 2 ^ (n.log2 - 52) :=
  calc n * 2 ^ (52 - n.log2) < 2 ^ (n.log2 + 1) * 2 ^ (52 - n.log2) :=
        Nat.mul_lt_mul_of_pos_right Nat.lt_log2_self (Nat.two_pow_pos _)
    _ = 2 ^ 53 * 2 ^ (n.log2 - 52) := by
        rw [← Nat.pow_add, ← Nat.pow_add]
        congr 1
        omega

theorem leadingBits_le (n : Nat) : leadingBits n ≤ 2 ^ 53 :=
  Nat.le_trans roundHalfEven_le ((Nat.div_lt_iff_lt_mul (Nat.two_pow_pos _)).2 (scaled_lt n))

/-- An integer of at most 53 bits keeps all of them. -/
theorem leadingBits_of_log2_le {n : Nat} (h : n.log2 ≤ 52) :
    leadingBits n = n * 2 ^ (52 - n.log2) := by
  rw [leadingBits, Nat.sub_eq_zero_of_le h, Nat.pow_zero, roundHalfEven_one]

theorem leadingBits_lt {n : Nat} (h : n.log2 ≤ 52) : leadingBits n < 2 ^ 53 := by
  have hlt := scaled_lt n
  rwa [Nat.sub_eq_zero_of_le h, Nat.pow_zero, Nat.mul_one, ← leadingBits_of_log2_le h] at hlt

theorem leadingBits_mono {m n : Nat} (hlog : m.log2 = n.log2) (h : m ≤ n) :
    leadingBits m ≤ leadingBits n := by
  rw [leadingBits, leadingBits, hlog]
  exact roundHalfEven_mono (Nat.mul_le_mul_right _ h)

theorem word_lt_infinityWord {n : Nat} (h : n.log2 ≤ 52) :
    (n.log2 + 1022) * 2 ^ 52 + leadingBits n < infinityWord := by
  have hbits := leadingBits_le n
  rw [show infinityWord = 2047 * 2 ^ 52 from rfl]
  omega

theorem nearestWord_zero : nearestWord 0 1 = 0 := rfl

theorem nearestWord_le (n : Nat) : nearestWord n 1 ≤ infinityWord := by
  by_cases hn : n = 0
  · rw [hn, nearestWord_zero]
    exact Nat.zero_le _
  · rw [nearestWord_one hn]
    exact Nat.min_le_left _ _

theorem nearestWord_mono {m n : Nat} (h : m ≤ n) : nearestWord m 1 ≤ nearestWord n 1 := by
  by_cases hm : m = 0
  · rw [hm, nearestWord_zero]
    exact Nat.zero_le _
  · have hn : n ≠ 0 := by omega
    have hwords : (m.log2 + 1022) * 2 ^ 52 + leadingBits m ≤
        (n.log2 + 1022) * 2 ^ 52 + leadingBits n := by
      rcases Nat.lt_or_eq_of_le (log2_mono hm h) with hlt | heq
      · have hm53 := leadingBits_le m
        have hn52 := le_leadingBits hn
        omega
      · have hbits := leadingBits_mono heq h
        rw [heq]
        omega
    rw [nearestWord_one hm, nearestWord_one hn]
    omega

/-- Up to `2 ^ 53` different integers have different words. -/
theorem nearestWord_lt {m n : Nat} (h : m < n) (hn : n ≤ 2 ^ 53) :
    nearestWord m 1 < nearestWord n 1 := by
  have hn0 : n ≠ 0 := by omega
  have hn52 := le_leadingBits hn0
  by_cases hm : m = 0
  · rw [hm, nearestWord_zero, nearestWord_one hn0, infinityWord]
    omega
  · have hlog : m.log2 ≤ n.log2 := log2_mono hm (Nat.le_of_lt h)
    -- only `2 ^ 53` itself has more than 53 bits
    have hm52 : m.log2 ≤ 52 := Nat.le_of_lt_succ ((Nat.log2_lt hm).2 (by omega))
    have hm53 := leadingBits_lt hm52
    have hwords : (m.log2 + 1022) * 2 ^ 52 + leadingBits m <
        (n.log2 + 1022) * 2 ^ 52 + leadingBits n := by
      rcases Nat.lt_or_eq_of_le hlog with hlt | heq
      · omega
      · have hless : leadingBits m < leadingBits n := by
          rw [leadingBits_of_log2_le hm52, leadingBits_of_log2_le (heq ▸ hm52), heq]
          exact Nat.mul_lt_mul_of_pos_right h (Nat.two_pow_pos _)
        rw [heq]
        omega
    have hfinite := word_lt_infinityWord hm52
    rw [nearestWord_one hm, nearestWord_one hn0]
    omega

/-! ### Ranks of integers -/

theorem rank_ofMagnitude {word : Nat} (h : word ≤ infinityWord) (negative : Bool) :
    (ofMagnitude negative word).rank = if negative then -(word : Int) else word := by
  have hword : word < 2 ^ 63 := Nat.lt_of_le_of_lt h (by decide)
  have hbits : (ofMagnitude negative word).bits.toNat =
      if negative then 2 ^ 63 + word else word := by
    rw [ofMagnitude, UInt64.toNat_ofNat']
    cases negative <;> simp <;> omega
  have hmagnitude : (ofMagnitude negative word).magnitude = word := by
    rw [magnitude, hbits]
    cases negative <;> simp <;> omega
  have hnegative : (ofMagnitude negative word).negative = negative := by
    rw [Double.negative, hbits]
    cases negative with
    | false => simpa using hword
    | true => simp
  have hnumber : (ofMagnitude negative word).isNaN = false := by
    simp [isNaN, hmagnitude, h]
  rw [rank, hnumber, hnegative, hmagnitude, if_neg Bool.false_ne_true]

theorem rank_ofInt (n : Int) : (ofInt n).rank =
    if n < 0 then -(nearestWord n.natAbs 1 : Int) else nearestWord n.natAbs 1 := by
  rw [ofInt, rank_ofMagnitude (nearestWord_le _)]
  simp

/-- Rounding keeps the order of integers. -/
theorem rank_ofInt_mono {m n : Int} (h : m ≤ n) : (ofInt m).rank ≤ (ofInt n).rank := by
  rw [rank_ofInt, rank_ofInt]
  split
  · split
    · have := nearestWord_mono (m := n.natAbs) (n := m.natAbs) (by omega)
      omega
    · omega
  · have := nearestWord_mono (m := m.natAbs) (n := n.natAbs) (by omega)
    rw [if_neg (by omega)]
    omega

theorem rank_ofInt_strictMono {m n : Int} (h : m < n) (hm : m.natAbs ≤ 2 ^ 53)
    (hn : n.natAbs ≤ 2 ^ 53) : (ofInt m).rank < (ofInt n).rank := by
  rw [rank_ofInt, rank_ofInt]
  split
  · split
    · have := nearestWord_lt (m := n.natAbs) (n := m.natAbs) (by omega) hm
      omega
    · have := nearestWord_lt (m := 0) (n := m.natAbs) (by omega) hm
      omega
  · have := nearestWord_lt (m := m.natAbs) (n := n.natAbs) (by omega) hn
    rw [if_neg (by omega)]
    omega

/-- Up to `2 ^ 53` in magnitude an integer is told by its double. -/
theorem eq_of_rank_ofInt {m n : Int} (hm : m.natAbs ≤ 2 ^ 53) (hn : n.natAbs ≤ 2 ^ 53)
    (h : (ofInt m).rank = (ofInt n).rank) : m = n := by
  rcases Int.lt_trichotomy m n with hlt | heq | hgt
  · exact absurd h (Int.ne_of_lt (rank_ofInt_strictMono hlt hm hn))
  · exact heq
  · exact absurd h.symm (Int.ne_of_lt (rank_ofInt_strictMono hgt hn hm))

end PagedFilter.Double
