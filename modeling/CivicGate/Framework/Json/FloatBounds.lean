import CivicGate.Framework.Json.Literal
import Mathlib.Algebra.Order.Field.Power
import Mathlib.Tactic.Linarith

/-!
# Floats and the decimals they print as

A float between zero and one prints as a decimal between zero and one, although the two numbers
differ (`tokenValue_mem_unit`).
-/

namespace CivicGate

lemma scaleBy_eq (b m : ℕ) (e : ℤ) : scaleBy b m e = m * (b : ℚ) ^ e := by
  unfold scaleBy
  split
  · rename_i he
    obtain ⟨n, rfl⟩ := Int.eq_ofNat_of_zero_le he
    simp
  · rename_i he
    obtain ⟨n, hn⟩ := Int.eq_ofNat_of_zero_le (show 0 ≤ -e by omega)
    obtain rfl : e = -(n : ℤ) := by omega
    rw [neg_neg, Int.toNat_natCast, Rat.mkRat_eq_div, zpow_neg, zpow_natCast, div_eq_mul_inv]
    push_cast
    rfl

/-- Rounding does not fall below a whole number. -/
lemma le_roundHalfEven {n : ℕ} {q : ℚ} (h : (n : ℚ) ≤ q) : n ≤ roundHalfEven q := by
  have hnonneg : 0 ≤ q := le_trans (Nat.cast_nonneg n) h
  have hfloor : n ≤ q.num.natAbs / q.den := by
    rw [Nat.le_div_iff_mul_le q.den_pos]
    have hmul : (n : ℚ) * q.den ≤ q.num := by
      have hden : (0 : ℚ) < q.den := Nat.cast_pos.mpr q.den_pos
      calc (n : ℚ) * q.den ≤ q * q.den := mul_le_mul_of_nonneg_right h hden.le
        _ = q.num := Rat.mul_den_eq_num q
    have hint : (n : ℤ) * q.den ≤ q.num := by exact_mod_cast hmul
    have habs : (q.num.natAbs : ℤ) = q.num := Int.natAbs_of_nonneg (Rat.num_nonneg.mpr hnonneg)
    omega
  unfold roundHalfEven
  dsimp only
  split_ifs <;> omega

/-- A power of two below the number. -/
lemma ratLog2_le {q : ℚ} (h : 0 < q) : (2 : ℚ) ^ ratLog2 q ≤ q := by
  unfold ratLog2
  dsimp only
  split
  · rename_i hle
    rw [scaleBy_eq] at hle
    simpa using hle
  · have hnum : q.num.natAbs ≠ 0 := Int.natAbs_ne_zero.mpr (Rat.num_pos.mpr h).ne'
    have hlow : 2 ^ Nat.log2 q.num.natAbs ≤ q.num.natAbs := Nat.log2_self_le hnum
    have hhigh : q.den < 2 ^ (Nat.log2 q.den + 1) := Nat.lt_log2_self
    have hcast : (q.num.natAbs : ℚ) = q.num := by
      have habs : (q.num.natAbs : ℤ) = q.num := Int.natAbs_of_nonneg (Rat.num_pos.mpr h).le
      rw [← Int.cast_natCast, habs]
    have hden : (0 : ℚ) < q.den := Nat.cast_pos.mpr q.den_pos
    have hq : q = q.num / q.den := (Rat.num_div_den q).symm
    have hlow' : (2 : ℚ) ^ Nat.log2 q.num.natAbs ≤ q.num := by
      rw [← hcast]
      exact_mod_cast hlow
    have hhigh' : (q.den : ℚ) ≤ 2 ^ (Nat.log2 q.den + 1) := by exact_mod_cast hhigh.le
    calc (2 : ℚ) ^ ((Nat.log2 q.num.natAbs : ℤ) - Nat.log2 q.den - 1)
        = 2 ^ Nat.log2 q.num.natAbs / 2 ^ (Nat.log2 q.den + 1) := by
          rw [sub_sub, zpow_sub₀ two_ne_zero]
          norm_cast
      _ ≤ q.num / q.den := div_le_div₀ (le_trans (by positivity) hlow') hlow' hden hhigh'
      _ = q := hq.symm

/-- A decimal above one does not round to a double below one. -/
lemma one_le_roundDouble {q r : ℚ} (h : 1 ≤ q) (hr : roundDouble q = some r) : 1 ≤ r := by
  have hpos : 0 < q := lt_of_lt_of_le one_pos h
  unfold roundDouble at hr
  rw [if_neg hpos.ne'] at hr
  dsimp only at hr
  split_ifs at hr
  obtain rfl := Option.some.inj hr
  generalize he : max (ratLog2 q - 52) (-1074) = e
  rw [scaleBy_eq, scaleBy_eq, Nat.cast_one, one_mul]
  push_cast
  have htwo : (0 : ℚ) < 2 ^ e := zpow_pos two_pos e
  by_cases hle : e ≤ 0
  · obtain ⟨n, hn⟩ := Int.eq_ofNat_of_zero_le (show 0 ≤ -e by omega)
    obtain rfl : e = -(n : ℤ) := by omega
    have hround : 2 ^ n ≤ roundHalfEven (q / 2 ^ (-(n : ℤ))) := by
      refine le_roundHalfEven ?_
      rw [zpow_neg, div_inv_eq_mul, zpow_natCast]
      push_cast
      exact le_mul_of_one_le_left (by positivity) h
    have hround' : (2 : ℚ) ^ n ≤ roundHalfEven (q / 2 ^ (-(n : ℤ))) := by exact_mod_cast hround
    calc (1 : ℚ) = 2 ^ n * 2 ^ (-(n : ℤ)) := by
          rw [zpow_neg, zpow_natCast, mul_inv_cancel₀ (by positivity)]
      _ ≤ _ := mul_le_mul_of_nonneg_right hround' htwo.le
  · have hlog : e = ratLog2 q - 52 := by omega
    have hbelow : (2 : ℚ) ^ e ≤ q := by
      refine le_trans ?_ (ratLog2_le hpos)
      exact zpow_le_zpow_right₀ one_le_two (by omega)
    have hround : 1 ≤ roundHalfEven (q / 2 ^ e) := by
      refine le_roundHalfEven ?_
      rw [Nat.cast_one, le_div_iff₀ htwo, one_mul]
      exact hbelow
    have hround' : (1 : ℚ) ≤ roundHalfEven (q / 2 ^ e) := by exact_mod_cast hround
    have hone : (1 : ℚ) ≤ 2 ^ e := one_le_zpow₀ one_le_two (by omega)
    exact one_le_mul_of_one_le_of_one_le hround' hone

/-! ## The unit interval -/

lemma scaleBy_nonneg (b m : ℕ) (e : ℤ) : 0 ≤ scaleBy b m e := by
  rw [scaleBy_eq]
  positivity

lemma roundDouble_nonneg {q r : ℚ} (hr : roundDouble q = some r) : 0 ≤ r := by
  unfold roundDouble at hr
  split_ifs at hr with hzero
  · exact (Option.some.inj hr).le
  · dsimp only at hr
    split_ifs at hr
    rw [← Option.some.inj hr]
    exact scaleBy_nonneg _ _ _

lemma unsignedDecimal_nonneg {cs : List Char} {q : ℚ} (h : unsignedDecimal cs = some q) :
    0 ≤ q := by
  unfold unsignedDecimal at h
  dsimp only at h
  split_ifs at h
  split at h
  · split_ifs at h
    obtain ⟨e, -, rfl⟩ := Option.map_eq_some_iff.mp h
    exact scaleBy_nonneg _ _ _
  · obtain ⟨e, -, rfl⟩ := Option.map_eq_some_iff.mp h
    exact scaleBy_nonneg _ _ _

lemma decimalOf_nonneg {cs : List Char} {d : Bool × ℚ} (h : decimalOf cs = some d) : 0 ≤ d.2 := by
  unfold decimalOf at h
  split at h <;>
  · obtain ⟨q, hq, rfl⟩ := Option.map_eq_some_iff.mp h
    exact unsignedDecimal_nonneg hq

/-- A float between zero and one prints as a decimal between zero and one. -/
theorem PyFloat.tokenValue_mem_unit {x : PyFloat} (hlow : 0 ≤ x.value) (hhigh : x.value ≤ 1) :
    ∃ q, tokenValue x.text = some q ∧ 0 ≤ q ∧ q ≤ 1 := by
  have hrepr := x.isRepr
  simp only [isFloatRepr, Bool.and_eq_true, decide_eq_true_eq] at hrepr
  obtain ⟨⟨negative, q⟩, hdecimal, hround⟩ := Option.bind_eq_some_iff.mp hrepr.2
  obtain ⟨r, hr, htext⟩ := Option.map_eq_some_iff.mp hround
  have hq := decimalOf_nonneg hdecimal
  have hrnonneg := roundDouble_nonneg hr
  dsimp only at hr htext hq
  rw [PyFloat.value, hdecimal] at hlow hhigh
  cases negative with
  | true =>
      simp only [hr, Option.getD_some] at hlow
      obtain rfl : r = 0 := by linarith
      refine ⟨0, ?_, le_rfl, zero_le_one⟩
      rw [← htext]
      decide
  | false =>
      simp only [hr, Option.getD_some] at hhigh
      refine ⟨q, by rw [tokenValue, hdecimal]; rfl, hq, ?_⟩
      by_contra habove
      obtain rfl : r = 1 := le_antisymm hhigh (one_le_roundDouble (not_le.mp habove).le hr)
      have hone : decimalOf (floatRepr false 1) = some (false, 1) := by decide +kernel
      rw [htext, hdecimal] at hone
      exact habove (Prod.mk.inj (Option.some.inj hone)).2.le

end CivicGate
