import Mathlib.Data.UInt
import PagedFilter.Page.Config
import PagedFilter.Proofs.Store

/-!
Lengths of pages. Under settings that pass validation a requested length is kept between one and the
upper bound, as unbounded integers are. A request without a length gets the default one as far as
that is a signed integer; a default beyond, which validation accepts, is read as a negative one, and
the page has one row.
-/

namespace PagedFilter.Page

/-! ### Words with and without a sign -/

theorem lt_one_iff_toInt_lt {n : Int64} : n < 1 ↔ n.toInt < 1 := by
  rw [Int64.lt_iff_toInt_lt, Int64.toInt_one]

/-- From one on an integer is the same with and without a sign. -/
theorem toNat_atLeastOne (n : Int64) :
    ((if n < 1 then (1 : UInt64) else n.toUInt64).toNat : Int) = max n.toInt 1 := by
  by_cases hn : n < 1
  · have hint := lt_one_iff_toInt_lt.1 hn
    rw [if_pos hn, UInt64.toNat_one]
    omega
  · have hint := mt lt_one_iff_toInt_lt.2 hn
    have hle : (0 : Int64) ≤ n := by
      rw [Int64.le_iff_toInt_le, Int64.toInt_zero]
      omega
    rw [if_neg hn, Int64.toNat_toUInt64_of_le hle, Int64.cast_toNatClampNeg n hle]
    omega

theorem eq_zero_iff_toNat_eq {m : UInt64} : m = 0 ↔ m.toNat = 0 := by
  rw [← UInt64.toNat_inj, UInt64.toNat_zero]

theorem toNat_oneForZero (m : UInt64) : (if m = 0 then 1 else m).toNat = max m.toNat 1 := by
  simp only [eq_zero_iff_toNat_eq]
  split
  · rw [UInt64.toNat_one]
    omega
  · omega

/-- With a sign the upper half of the words is negative. -/
theorem toInt_toInt64 (m : UInt64) :
    m.toInt64.toInt = if m.toNat < 2 ^ 63 then (m.toNat : Int) else m.toNat - 2 ^ 64 := by
  have hbits : m.toInt64.toInt = m.toBitVec.toInt := rfl
  rw [hbits, BitVec.toInt_eq_toNat_cond, UInt64.toNat_toBitVec]
  split <;> split <;> omega

namespace Config

/-! ### Validation -/

/-- Requests can be paged: the default length has a row, and the upper bound is not below it. -/
structure IsSound (cfg : Config) : Prop where
  one_le_default : 1 ≤ cfg.defaultLimit.toNat
  default_le : ∀ bound ∈ cfg.maxLimit, cfg.defaultLimit.toNat ≤ bound.toNat

theorem fault?_eq_none_iff {cfg : Config} : cfg.fault? = none ↔ cfg.IsSound := by
  have hsound : cfg.IsSound ↔ 1 ≤ cfg.defaultLimit.toNat ∧
      ∀ bound ∈ cfg.maxLimit, cfg.defaultLimit.toNat ≤ bound.toNat :=
    ⟨fun h => ⟨h.1, h.2⟩, fun h => ⟨h.1, h.2⟩⟩
  rw [hsound, fault?]
  simp only [eq_zero_iff_toNat_eq, UInt64.lt_iff_toNat_lt]
  cases cfg.maxLimit with
  | none =>
    split
    · exact iff_of_false nofun (by omega)
    · exact iff_of_true rfl ⟨by omega, nofun⟩
  | some bound =>
    simp only [Option.mem_def, Option.some.injEq, forall_eq']
    split
    · exact iff_of_false nofun (by omega)
    · split
      · exact iff_of_false nofun (by omega)
      · split
        · exact iff_of_false nofun (by omega)
        · exact iff_of_true rfl (by omega)

theorem validate_eq_ok_iff {settings cfg : Config} :
    settings.validate = .ok cfg ↔ cfg = settings ∧ settings.IsSound := by
  rw [validate, ← fault?_eq_none_iff]
  cases settings.fault? <;> simp [eq_comm]

/-! ### Lengths in unbounded integers -/

/-- A length kept between one and the bound of the settings, where a bound of zero counts as one. -/
def within (cfg : Config) (n : Int) : Int :=
  match cfg.maxLimit with
  | none => max n 1
  | some bound => min (max n 1) (max bound.toNat 1)

/-- The length that settings declare for a requested one. -/
def declaredLength (cfg : Config) : Option Int64 → Int
  | none => cfg.defaultLimit.toNat
  | some n =>
    match cfg.maxLimit with
    | none => max n.toInt 1
    | some bound => min (max n.toInt 1) bound.toNat

/-- The default as a signed integer stands for a length that is not requested. -/
theorem toNat_resolveLimit (cfg : Config) (requested : Option Int64) :
    ((cfg.resolveLimit requested).toNat : Int) =
      cfg.within (requested.getD cfg.defaultLimit.toInt64).toInt := by
  have hlimit := toNat_atLeastOne (requested.getD cfg.defaultLimit.toInt64)
  rw [resolveLimit, within]
  cases cfg.maxLimit with
  | none => exact hlimit
  | some bound =>
    simp only [UInt64.toNat_min, toNat_oneForZero]
    omega

theorem one_le_within (cfg : Config) (n : Int) : 1 ≤ cfg.within n := by
  rw [within]
  split <;> omega

theorem within_eq_one (cfg : Config) {n : Int} (h : n ≤ 1) : cfg.within n = 1 := by
  rw [within]
  split <;> omega

namespace IsSound

variable {cfg : Config} (h : cfg.IsSound)
include h

theorem within_default : cfg.within cfg.defaultLimit.toNat = cfg.defaultLimit.toNat := by
  have hone := h.one_le_default
  rw [within]
  split
  · omega
  · next bound hbound =>
    have hle := h.default_le bound hbound
    omega

theorem within_toInt (n : Int64) : cfg.within n.toInt = cfg.declaredLength (some n) := by
  rw [within, declaredLength]
  cases hmax : cfg.maxLimit with
  | none => rfl
  | some bound =>
    have hone := h.one_le_default
    have hle := h.default_le bound hmax
    simp only
    omega

theorem within_le {bound : UInt64} (hbound : bound ∈ cfg.maxLimit) (n : Int) :
    cfg.within n ≤ bound.toNat := by
  have hone := h.one_le_default
  have hle := h.default_le bound hbound
  rw [within, Option.mem_def.1 hbound]
  simp only
  omega

theorem resolveLimit_none : ((cfg.resolveLimit none).toNat : Int) =
    if cfg.defaultLimit.toNat < 2 ^ 63 then (cfg.defaultLimit.toNat : Int) else 1 := by
  rw [toNat_resolveLimit, Option.getD_none, toInt_toInt64]
  split
  · exact h.within_default
  · have hlt := cfg.defaultLimit.toNat_lt
    exact cfg.within_eq_one (by omega)

theorem resolveLimit_some (n : Int64) :
    ((cfg.resolveLimit (some n)).toNat : Int) = cfg.declaredLength (some n) := by
  rw [toNat_resolveLimit, Option.getD_some, h.within_toInt]

end IsSound

end Config

/-- No page is too short for a row, whatever the settings. -/
theorem one_le_resolveLimit (cfg : Config) (requested : Option Int64) :
    1 ≤ (cfg.resolveLimit requested).toNat := by
  have hlength := cfg.toNat_resolveLimit requested
  have hone := cfg.one_le_within (requested.getD cfg.defaultLimit.toInt64).toInt
  omega

/-- Validation returns the settings it accepts, and under these each request comes to a length
between one and the upper bound. It is the declared one, in unbounded integers, except where no
length is requested and the default is no signed integer: that page has one row. -/
theorem validated_lengths_are_declared {settings cfg : Config}
    (h : settings.validate = .ok cfg) (requested : Option Int64) :
    let length := (cfg.resolveLimit requested).toNat
    cfg = settings ∧
    ((length : Int) = settings.declaredLength requested ↔
      (requested = none → settings.defaultLimit.toNat < 2 ^ 63)) ∧
    (requested = none → 2 ^ 63 ≤ settings.defaultLimit.toNat → length = 1) ∧
    1 ≤ length ∧ ∀ bound ∈ settings.maxLimit, length ≤ bound.toNat := by
  obtain ⟨rfl, hsound⟩ := Config.validate_eq_ok_iff.1 h
  intro length
  have hmost : ∀ bound ∈ cfg.maxLimit, length ≤ bound.toNat := by
    intro bound hbound
    have hlength := cfg.toNat_resolveLimit requested
    have hle := hsound.within_le hbound (requested.getD cfg.defaultLimit.toInt64).toInt
    omega
  refine ⟨rfl, ?_, ?_, one_le_resolveLimit cfg requested, hmost⟩
  · cases requested with
    | none =>
      have hlength : (length : Int) = _ := hsound.resolveLimit_none
      rw [hlength, Config.declaredLength]
      split
      · next hlt => exact iff_of_true rfl fun _ => hlt
      · next hlt => exact iff_of_false (by omega) fun himp => hlt (himp rfl)
    | some n => exact iff_of_true (hsound.resolveLimit_some n) nofun
  · rintro rfl hupper
    have hlength : (length : Int) = _ := hsound.resolveLimit_none
    rw [if_neg (by omega)] at hlength
    omega

/-- The greatest default that counts, and the least and greatest lengths that can be requested. -/
theorem lengths_at_limits_of_words :
    let cfg : Config := ⟨9223372036854775807, some 9223372036854775808, false, true⟩
    cfg.validate = .ok cfg ∧ (cfg.resolveLimit none).toNat = 2 ^ 63 - 1 ∧
      (cfg.resolveLimit (some Int64.maxValue)).toNat = 2 ^ 63 - 1 ∧
      (cfg.resolveLimit (some Int64.minValue)).toNat = 1 := by
  intro cfg
  have h : cfg.validate = .ok cfg := rfl
  have hdeclared (requested : Option Int64) :=
    (validated_lengths_are_declared h requested).2.1.2 fun _ => by decide
  refine ⟨h, ?_, ?_, ?_⟩
  · exact Int.ofNat_inj.1 ((hdeclared none).trans (by decide))
  · exact Int.ofNat_inj.1 ((hdeclared _).trans (by decide))
  · exact Int.ofNat_inj.1 ((hdeclared _).trans (by decide))

/-- A default of `2 ^ 63` is read and accepted, and a page of no requested length has one row. -/
theorem default_of_two_to_63_comes_to_one :
    let cfg : Config := ⟨9223372036854775808, none, false, true⟩
    Json.decodeText Config.decode ("\x7b\"default_limit\":9223372036854775808," ++
        "\"max_limit\":null,\"case_convert\":false,\"cast_dates\":true\x7d") = .ok cfg ∧
      cfg.validate = .ok cfg ∧ cfg.declaredLength none = 2 ^ 63 ∧
      (cfg.resolveLimit none).toNat = 1 :=
  ⟨eq_ok_of_toOption (by decide +kernel), rfl, by decide, by decide⟩

end PagedFilter.Page
