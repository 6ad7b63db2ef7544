import CivicGate.Framework.Decimals

/-!
# Decimals within a context

Addition of Python's `decimal` in a context: the exact sum is brought within the precision and the
exponents of the context, half to even.  The result is exact if and only if the context represents
the exact sum (`DecimalContext.add_exact_iff`), and a sum taken term by term is exact if the context
represents every running total (`DecimalContext.sum_exact`).
-/

namespace CivicGate

/-! ## Decimals -/

/-- A finite `Decimal`. -/
structure Decimal where
  negative : Bool
  coefficient : ℕ
  exponent : ℤ
  deriving DecidableEq

namespace Decimal

/-- The number of a decimal. -/
def value (d : Decimal) : ℚ := decimalValue d.negative d.coefficient d.exponent

/-- The coefficient with its sign, at an exponent that is not above the decimal's own. -/
def scaled (d : Decimal) (e : ℤ) : ℤ :=
  let magnitude : ℕ := d.coefficient * 10 ^ (d.exponent - e).toNat
  if d.negative then -magnitude else magnitude

/-- The sum before it is rounded.  A sum of zeros is negative if both are; opposite numbers have a
positive sum. -/
def exactSum (a b : Decimal) : Decimal :=
  let e := min a.exponent b.exponent
  let n := a.scaled e + b.scaled e
  ⟨if n = 0 then a.negative && b.negative else n < 0, n.natAbs, e⟩

lemma value_eq (d : Decimal) : d.value =
    (if d.negative then -(d.coefficient : ℚ) else d.coefficient) * 10 ^ d.exponent := by
  rw [value, decimalValue, scaleBy_eq]
  split_ifs
  · rw [neg_mul]
    rfl
  · rfl

lemma value_scaled (d : Decimal) {e : ℤ} (he : e ≤ d.exponent) :
    d.value = d.scaled e * 10 ^ e := by
  obtain ⟨k, hk⟩ := Int.le.dest he
  have hten : (10 : ℚ) ^ d.exponent = 10 ^ k * 10 ^ e := by
    rw [← hk, zpow_add₀ (by norm_num), zpow_natCast, mul_comm]
  have hdiff : (d.exponent - e).toNat = k := by omega
  rw [value_eq, hten, scaled, hdiff]
  split_ifs
  · push_cast
    ring
  · push_cast
    ring

lemma value_exactSum (a b : Decimal) : (a.exactSum b).value = a.value + b.value := by
  rw [value_scaled a (min_le_left a.exponent b.exponent),
    value_scaled b (min_le_right a.exponent b.exponent), ← add_mul, value_eq]
  have habs : ∀ n : ℤ, (if (if n = 0 then a.negative && b.negative else decide (n < 0)) = true
      then -(n.natAbs : ℚ) else n.natAbs) = n := by
    intro n
    rcases lt_trichotomy n 0 with hn | rfl | hn
    · rw [if_neg hn.ne, if_pos (by simpa using hn), Nat.cast_natAbs, abs_of_neg hn]
      push_cast
      ring
    · simp
    · rw [if_neg hn.ne', if_neg (by simpa using hn.le), Nat.cast_natAbs, abs_of_pos hn]
  refine (congrArg (fun n : ℚ => n * 10 ^ min a.exponent b.exponent) (habs _)).trans ?_
  push_cast
  rfl

/-- `str(value)` -/
def text (d : Decimal) : List Char := decimalText d.negative d.coefficient d.exponent

/-- `Decimal(text)` for the text of a JSON number, which `str` of a finite decimal is. -/
def ofToken (token : List Char) : Option Decimal :=
  (numberParts token).map fun (negative, whole, frac, e) =>
    ⟨negative, (ofParts whole frac e).1, (ofParts whole frac e).2⟩

lemma tokenValue_text (d : Decimal) : tokenValue d.text = some d.value :=
  tokenValue_decimalText d.negative d.coefficient d.exponent

/-- The text of a decimal is read back as its number. -/
lemma exists_ofToken_text (d : Decimal) : ∃ r, ofToken d.text = some r ∧ r.value = d.value := by
  have hvalue := d.tokenValue_text
  rw [tokenValue_eq] at hvalue
  obtain ⟨p, hp, hvalue⟩ := Option.map_eq_some_iff.mp hvalue
  have htoken : ofToken d.text = some ⟨p.1, (ofParts p.2.1 p.2.2.1 p.2.2.2).1,
      (ofParts p.2.1 p.2.2.1 p.2.2.2).2⟩ := by
    rw [ofToken, hp]
    rfl
  exact ⟨_, htoken, hvalue⟩

end Decimal

/-! ## Rounding -/

/-- The number of decimal digits. -/
def digitCount (n : ℕ) : ℕ := (Nat.toDigits 10 n).length

lemma lt_pow_digitCount (n : ℕ) : n < 10 ^ digitCount n := by
  have hpos : 0 < digitCount n := List.length_pos_iff.mpr Nat.toDigits_ne_nil
  exact (Nat.length_toDigits_le_iff (by decide) hpos).mp le_rfl

lemma digitCount_le {n k : ℕ} (hk : 0 < k) (hn : n < 10 ^ k) : digitCount n ≤ k :=
  length_digits_le hk hn

lemma lt_pow_of_digitCount {n k : ℕ} (h : digitCount n ≤ k) : n < 10 ^ k :=
  (lt_pow_digitCount n).trans_le (Nat.pow_le_pow_right (by decide) h)

lemma pow_le_of_digitCount {n : ℕ} (hn : 0 < n) : 10 ^ (digitCount n - 1) ≤ n := by
  by_contra hlt
  have hlt : n < 10 ^ (digitCount n - 1) := not_le.mp hlt
  rcases Nat.eq_zero_or_pos (digitCount n - 1) with hzero | hpos
  · rw [hzero] at hlt
    omega
  · have hle := digitCount_le hpos hlt
    omega

lemma roundHalfEven_natCast (n : ℕ) : roundHalfEven n = n := by
  have hnum : (n : ℚ).num = n := Rat.num_natCast n
  have hden : (n : ℚ).den = 1 := Rat.den_natCast n
  simp [roundHalfEven, hnum, hden, Nat.mod_one]

/-- Rounding does not pass a whole number. -/
lemma roundHalfEven_le {q : ℚ} {n : ℕ} (hq : 0 ≤ q) (h : q < n) : roundHalfEven q ≤ n := by
  have hfloor : q.num.natAbs / q.den < n := by
    rw [Nat.div_lt_iff_lt_mul q.den_pos]
    have hden : (0 : ℚ) < q.den := Nat.cast_pos.mpr q.den_pos
    have hmul : (q.num : ℚ) < n * q.den := by
      calc (q.num : ℚ) = q * q.den := (Rat.mul_den_eq_num q).symm
        _ < n * q.den := mul_lt_mul_of_pos_right h hden
    have hint : q.num < n * q.den := by exact_mod_cast hmul
    have habs : (q.num.natAbs : ℤ) = q.num := Int.natAbs_of_nonneg (Rat.num_nonneg.mpr hq)
    have hcast : ((q.num.natAbs : ℕ) : ℤ) < ((n * q.den : ℕ) : ℤ) := by
      rw [habs]
      exact_mod_cast hint
    exact_mod_cast hcast
  unfold roundHalfEven
  dsimp only
  split_ifs <;> omega

/-- A context that rounds half to even and raises `Overflow`. -/
structure DecimalContext where
  precision : ℕ
  emin : ℤ
  emax : ℤ
  precision_pos : 0 < precision
  emin_le : emin ≤ emax

namespace DecimalContext

variable (ctx : DecimalContext)

/-- The least exponent. -/
def etiny : ℤ := ctx.emin - ctx.precision + 1

/-- The greatest exponent of a decimal with all its digits. -/
def etop : ℤ := ctx.emax - ctx.precision + 1

/-- `_fix`: the decimal within the context; `none` where it raises `Overflow`. -/
def fix (d : Decimal) : Option Decimal :=
  if d.coefficient = 0 then some { d with exponent := min (max d.exponent ctx.etiny) ctx.emax }
  else
    let least := d.exponent + digitCount d.coefficient - ctx.precision
    if ctx.etop < least then none
    else
      let exponent := max least ctx.etiny
      if d.exponent < exponent then
        let rounded := roundHalfEven (mkRat d.coefficient (10 ^ (exponent - d.exponent).toNat))
        -- Rounding up may leave one digit too many, the last a zero.
        let (coefficient, exponent) :=
          if ctx.precision < digitCount rounded then (rounded / 10, exponent + 1)
          else (rounded, exponent)
        if ctx.etop < exponent then none else some ⟨d.negative, coefficient, exponent⟩
      else some d

/-- `a + b` -/
def add (a b : Decimal) : Option Decimal := ctx.fix (a.exactSum b)

/-- `sum(terms, start)` -/
def sum (start : Decimal) (terms : List Decimal) : Option Decimal := terms.foldlM ctx.add start

/-- The context has a decimal of this number. -/
def Represents (q : ℚ) : Prop :=
  |q| < 10 ^ (ctx.emax + 1) ∧
    ∃ (n : ℕ) (e : ℤ), |q| = n * 10 ^ e ∧ n < 10 ^ ctx.precision ∧ ctx.etiny ≤ e

variable {ctx}

lemma etiny_le_etop : ctx.etiny ≤ ctx.etop := by
  have hle := ctx.emin_le
  unfold etiny etop
  omega

/-- The absolute value of a decimal. -/
lemma abs_value (d : Decimal) : |d.value| = d.coefficient * 10 ^ d.exponent := by
  have hpos : (0 : ℚ) ≤ d.coefficient * 10 ^ d.exponent := by positivity
  rw [Decimal.value_eq]
  split_ifs
  · rw [neg_mul, abs_neg, abs_of_nonneg hpos]
  · exact abs_of_nonneg hpos

/-- A coefficient within the precision and an exponent within the bounds. -/
lemma represents_of_bounds {negative : Bool} {coefficient k : ℕ} {exponent : ℤ}
    (hlow : ctx.etiny ≤ exponent) (hhigh : k + exponent ≤ ctx.emax + 1) (hk : k ≤ ctx.precision)
    (hcoefficient : coefficient < 10 ^ k) :
    ctx.Represents (Decimal.value ⟨negative, coefficient, exponent⟩) := by
  have habs := abs_value ⟨negative, coefficient, exponent⟩
  refine ⟨?_, coefficient, exponent, habs,
    hcoefficient.trans_le (Nat.pow_le_pow_right (by decide) hk), hlow⟩
  rw [habs]
  have hcast : (coefficient : ℚ) < 10 ^ (k : ℤ) := by exact_mod_cast hcoefficient
  calc (coefficient : ℚ) * 10 ^ exponent < 10 ^ (k : ℤ) * 10 ^ exponent :=
        mul_lt_mul_of_pos_right hcast (zpow_pos (by norm_num) _)
    _ = 10 ^ (k + exponent) := (zpow_add₀ (by norm_num) _ _).symm
    _ ≤ 10 ^ (ctx.emax + 1) := zpow_le_zpow_right₀ (by norm_num) hhigh

lemma represents_zero {q : ℚ} (hq : q = 0) : ctx.Represents q := by
  rw [hq, Represents, abs_zero]
  exact ⟨zpow_pos (by norm_num) _, 0, ctx.etiny, by simp, Nat.pow_pos (by decide), le_rfl⟩

/-- What `_fix` returns is represented. -/
lemma represents_of_fix {d r : Decimal} (h : ctx.fix d = some r) : ctx.Represents r.value := by
  unfold fix at h
  by_cases hzero : d.coefficient = 0
  · rw [if_pos hzero] at h
    obtain rfl := Option.some.inj h
    exact represents_zero (by simp [Decimal.value_eq, hzero])
  · rw [if_neg hzero] at h
    dsimp only at h
    have hdigits := lt_pow_digitCount d.coefficient
    generalize hleast : d.exponent + digitCount d.coefficient - ctx.precision = least at h
    have htiny : ctx.etiny ≤ max least ctx.etiny := le_max_right _ _
    have hbound : least ≤ max least ctx.etiny := le_max_left _ _
    generalize max least ctx.etiny = exponent at h htiny hbound
    have hpower : roundHalfEven (mkRat d.coefficient (10 ^ (exponent - d.exponent).toNat)) ≤
        10 ^ ctx.precision := by
      have hfraction := Rat.mkRat_eq_div d.coefficient (10 ^ (exponent - d.exponent).toNat)
      push_cast at hfraction
      rw [hfraction]
      refine roundHalfEven_le (div_nonneg (Nat.cast_nonneg _) (by positivity)) ?_
      rw [div_lt_iff₀ (by positivity)]
      have hle : digitCount d.coefficient ≤ ctx.precision + (exponent - d.exponent).toNat := by
        omega
      have hlt := hdigits.trans_le (Nat.pow_le_pow_right (by decide : 0 < 10) hle)
      rw [pow_add] at hlt
      exact_mod_cast hlt
    have htop : ∀ {e : ℤ}, ¬ ctx.etop < e → (ctx.precision : ℤ) + e ≤ ctx.emax + 1 := by
      intro e he
      unfold etop at he
      omega
    split_ifs at h with hover hround hcount hcarry hcarry
    · obtain rfl := Option.some.inj h
      refine represents_of_bounds (by dsimp only; omega) (htop hcarry) le_rfl ?_
      have hprecision := Nat.pow_pos (n := ctx.precision) (show 0 < 10 by decide)
      dsimp only
      omega
    · obtain rfl := Option.some.inj h
      exact represents_of_bounds htiny (htop hcarry) le_rfl
        (lt_pow_of_digitCount (not_lt.mp hcount))
    · obtain rfl := Option.some.inj h
      have hleast := htop hover
      exact represents_of_bounds (by omega) (by omega) (by omega) hdigits

/-- A number that is represented is not rounded. -/
lemma fix_of_represents {d : Decimal} (h : ctx.Represents d.value) :
    ∃ r, ctx.fix d = some r ∧ r.value = d.value := by
  obtain ⟨hmax, m, f, hm, hprecision, hf⟩ := h
  rw [abs_value] at hmax hm
  by_cases hzero : d.coefficient = 0
  · exact ⟨_, by rw [fix, if_pos hzero], by simp [Decimal.value_eq, hzero]⟩
  · have hpos : 0 < d.coefficient := Nat.pos_of_ne_zero hzero
    have hten : (1 : ℚ) < 10 := by norm_num
    have hdigits : 1 ≤ digitCount d.coefficient :=
      List.length_pos_iff.mpr Nat.toDigits_ne_nil
    have hlow : (10 : ℚ) ^ (((digitCount d.coefficient - 1 : ℕ) : ℤ) + d.exponent) ≤
        d.coefficient * 10 ^ d.exponent := by
      rw [zpow_add₀ (by norm_num), zpow_natCast]
      have hcast : (10 : ℚ) ^ (digitCount d.coefficient - 1) ≤ d.coefficient := by
        exact_mod_cast pow_le_of_digitCount hpos
      exact mul_le_mul_of_nonneg_right hcast (by positivity)
    have hbelow := (zpow_lt_zpow_iff_right₀ hten).mp (hlow.trans_lt hmax)
    have hleast : ((digitCount d.coefficient - 1 : ℕ) : ℤ) + d.exponent < ctx.precision + f := by
      refine (zpow_lt_zpow_iff_right₀ hten).mp (hlow.trans_lt ?_)
      rw [hm, zpow_add₀ (by norm_num), zpow_natCast]
      exact mul_lt_mul_of_pos_right (by exact_mod_cast hprecision) (by positivity)
    rw [fix, if_neg hzero]
    dsimp only
    rw [if_neg (by unfold etop; omega)]
    generalize hexponent : max (d.exponent + digitCount d.coefficient - ctx.precision) ctx.etiny =
      exponent
    by_cases hlt : d.exponent < exponent
    · rw [if_pos hlt]
      obtain ⟨k, hk⟩ := Int.le.dest hlt.le
      obtain ⟨j, hj⟩ := Int.le.dest (show exponent ≤ f by omega)
      have hcoefficient : d.coefficient = m * 10 ^ j * 10 ^ k := by
        have hne : (10 : ℚ) ^ d.exponent ≠ 0 := zpow_ne_zero _ (by norm_num)
        have hpow : (10 : ℚ) ^ f = 10 ^ j * 10 ^ k * 10 ^ d.exponent := by
          rw [← hj, ← hk, zpow_add₀ (by norm_num), zpow_add₀ (by norm_num), zpow_natCast,
            zpow_natCast]
          ring
        rw [hpow, ← mul_assoc, ← mul_assoc] at hm
        exact_mod_cast mul_right_cancel₀ hne hm
      have hrounded : roundHalfEven (mkRat d.coefficient (10 ^ (exponent - d.exponent).toNat)) =
          m * 10 ^ j := by
        have hk' : (exponent - d.exponent).toNat = k := by omega
        rw [hk', hcoefficient, Rat.mkRat_eq_div]
        push_cast
        rw [mul_div_cancel_right₀ _ (by positivity)]
        exact_mod_cast roundHalfEven_natCast (m * 10 ^ j)
      have hcount : digitCount (m * 10 ^ j) ≤ ctx.precision := by
        refine digitCount_le ctx.precision_pos ?_
        by_contra hge
        have hge := not_lt.mp hge
        have hmul : 10 ^ ctx.precision * 10 ^ k ≤ d.coefficient := by
          rw [hcoefficient]
          exact Nat.mul_le_mul_right _ hge
        have hlt := hmul.trans_lt (lt_pow_digitCount d.coefficient)
        rw [← pow_add] at hlt
        have hpow := (Nat.pow_lt_pow_iff_right (by decide)).mp hlt
        omega
      rw [hrounded, if_neg (not_lt.mpr hcount)]
      have htop : ¬ ctx.etop < exponent := by
        have htiny := @etiny_le_etop ctx
        unfold etop at htiny ⊢
        omega
      refine ⟨⟨d.negative, m * 10 ^ j, exponent⟩, if_neg htop, ?_⟩
      rw [Decimal.value_eq, Decimal.value_eq, hcoefficient, ← hk, zpow_add₀ (by norm_num),
        zpow_natCast]
      push_cast
      split_ifs <;> ring
    · exact ⟨d, if_neg hlt, rfl⟩

/-- A sum is exact if and only if the context represents it. -/
theorem add_exact_iff (a b : Decimal) :
    (∃ r, ctx.add a b = some r ∧ r.value = a.value + b.value) ↔
      ctx.Represents (a.value + b.value) := by
  rw [← Decimal.value_exactSum, add]
  constructor
  · rintro ⟨r, hr, hvalue⟩
    rw [← hvalue]
    exact represents_of_fix hr
  · exact fix_of_represents

/-- The sum is exact if the context represents every running total. -/
theorem sum_exact {start : Decimal} {terms : List Decimal}
    (h : ∀ part, part <+: terms → ctx.Represents (start.value + (part.map Decimal.value).sum)) :
    ∃ r, ctx.sum start terms = some r ∧
      r.value = start.value + (terms.map Decimal.value).sum := by
  induction terms generalizing start with
  | nil => exact ⟨start, rfl, by simp⟩
  | cons a terms ih =>
      have hfirst := h [a] (by simp)
      rw [List.map_singleton, List.sum_singleton] at hfirst
      obtain ⟨total, htotal, hvalue⟩ := (add_exact_iff start a).mpr hfirst
      obtain ⟨r, hr, hsum⟩ := @ih total fun part hpart => by
        have hlonger := h (a :: part) (List.cons_prefix_cons.mpr ⟨rfl, hpart⟩)
        rw [List.map_cons, List.sum_cons, ← add_assoc, ← hvalue] at hlonger
        exact hlonger
      refine ⟨r, ?_, ?_⟩
      · rw [sum, List.foldlM_cons, htotal]
        exact hr
      · rw [hsum, hvalue, List.map_cons, List.sum_cons, add_assoc]

/-- A sum is represented if it starts with a number that is. -/
lemma represents_sum {start r : Decimal} {terms : List Decimal} (h : ctx.sum start terms = some r)
    (hstart : ctx.Represents start.value) : ctx.Represents r.value := by
  induction terms generalizing start with
  | nil =>
      obtain rfl := Option.some.inj h
      exact hstart
  | cons a terms ih =>
      rw [sum, List.foldlM_cons] at h
      obtain ⟨total, htotal, hrest⟩ := Option.bind_eq_some_iff.mp h
      exact ih hrest (represents_of_fix htotal)

end DecimalContext

end CivicGate
