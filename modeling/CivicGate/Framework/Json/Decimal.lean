import CivicGate.Framework.Json.Literal

/-!
# Python decimals

`decimalText` is `str(value)` for a finite `Decimal`: a JSON number (`isNumberToken_decimalText`)
that denotes the decimal (`tokenValue_decimalText`).
-/

namespace CivicGate

/-- A `Decimal`. -/
inductive PyDecimal
  | finite (negative : Bool) (coefficient : ℕ) (exponent : ℤ)
  | nonfinite (text : String)
  deriving DecidableEq

/-- The digits around the decimal point. -/
def placePoint (digits : List Char) (dotplace : ℤ) : List Char :=
  if dotplace ≤ 0 then '0' :: '.' :: (List.replicate (-dotplace).toNat '0' ++ digits)
  else if digits.length ≤ dotplace.toNat then
    digits ++ List.replicate (dotplace.toNat - digits.length) '0'
  else digits.take dotplace.toNat ++ '.' :: digits.drop dotplace.toNat

/-- The exponent a decimal is written with, if any. -/
def exponentText (shift : ℤ) : List Char :=
  if shift = 0 then []
  else 'E' :: (if shift < 0 then '-' else '+') :: Nat.toDigits 10 shift.natAbs

/-- Where the decimal point stands in `str(value)`. -/
def dotPlace (exponent leftdigits : ℤ) : ℤ :=
  if exponent ≤ 0 ∧ -6 < leftdigits then leftdigits else 1

/-- `str(value)` without its sign. -/
def unsignedText (coefficient : ℕ) (exponent : ℤ) : List Char :=
  let digits := Nat.toDigits 10 coefficient
  let leftdigits := exponent + digits.length
  let dotplace := dotPlace exponent leftdigits
  placePoint digits dotplace ++ exponentText (leftdigits - dotplace)

/-- `str(value)` -/
def decimalText (negative : Bool) (coefficient : ℕ) (exponent : ℤ) : List Char :=
  (if negative then ['-'] else []) ++ unsignedText coefficient exponent

/-- The number of a finite decimal. -/
def decimalValue (negative : Bool) (coefficient : ℕ) (exponent : ℤ) : ℚ :=
  if negative then -scaleBy 10 coefficient exponent else scaleBy 10 coefficient exponent

/-! ## What is read back -/

/-- The text does not go on with a digit. -/
def NoDigitHead (cs : List Char) : Prop := ∀ c, cs.head? = some c → c.isDigit = false

lemma takeWhile_digits {ds rest : List Char} (hds : ∀ c ∈ ds, c.isDigit = true)
    (hrest : NoDigitHead rest) : (ds ++ rest).takeWhile Char.isDigit = ds := by
  rw [List.takeWhile_append_of_pos hds]
  cases rest with
  | nil => simp
  | cons c cs => simp [hrest c rfl]

lemma dropWhile_digits {ds rest : List Char} (hds : ∀ c ∈ ds, c.isDigit = true)
    (hrest : NoDigitHead rest) : (ds ++ rest).dropWhile Char.isDigit = rest := by
  rw [List.dropWhile_append_of_pos hds]
  cases rest with
  | nil => simp
  | cons c cs => simp [hrest c rfl]

lemma isWholePart_digits {ds : List Char} (h : isWholePart ds = true) :
    ∀ c ∈ ds, c.isDigit = true := List.all_eq_true.mp (Bool.and_eq_true_iff.mp h).1

/-- A number with a fraction. -/
lemma unsignedDecimal_fraction {whole frac tail : List Char} {e : ℤ}
    (hwhole : isWholePart whole = true) (hfrac : ∀ c ∈ frac, c.isDigit = true) (hne : frac ≠ [])
    (htail : NoDigitHead tail) (he : exponentOf tail = some e) :
    unsignedDecimal (whole ++ '.' :: (frac ++ tail)) =
      some (scaleBy 10 (natOfDigits (whole ++ frac)) (e - frac.length)) := by
  have hpoint : NoDigitHead ('.' :: (frac ++ tail)) := by
    intro c hc
    obtain rfl := Option.some.inj hc
    decide
  have hdigits := isWholePart_digits hwhole
  rw [unsignedDecimal, takeWhile_digits hdigits hpoint, dropWhile_digits hdigits hpoint]
  simp only [hwhole, if_true, takeWhile_digits hfrac htail, dropWhile_digits hfrac htail, he,
    Option.map_some, if_neg hne]

/-- A number without a fraction. -/
lemma unsignedDecimal_exponent {whole tail : List Char} {e : ℤ}
    (hwhole : isWholePart whole = true) (htail : NoDigitHead tail)
    (hpoint : ∀ rest, tail ≠ '.' :: rest) (he : exponentOf tail = some e) :
    unsignedDecimal (whole ++ tail) = some (scaleBy 10 (natOfDigits whole) e) := by
  have hdigits := isWholePart_digits hwhole
  rw [unsignedDecimal, takeWhile_digits hdigits htail, dropWhile_digits hdigits htail]
  simp only [hwhole, if_true, he, Option.map_some]

lemma exponentText_head (shift : ℤ) :
    NoDigitHead (exponentText shift) ∧ ∀ rest, exponentText shift ≠ '.' :: rest := by
  unfold exponentText
  split
  · exact ⟨by simp [NoDigitHead], by simp⟩
  · refine ⟨fun c hc => ?_, fun rest h => ?_⟩
    · obtain rfl := Option.some.inj hc
      decide
    · exact absurd (List.cons.inj h).1 (by decide)

/-- The exponent is read back. -/
lemma exponentOf_exponentText (shift : ℤ) : exponentOf (exponentText shift) = some shift := by
  have hdigits : ∀ n : ℕ, (Nat.toDigits 10 n ≠ [] && (Nat.toDigits 10 n).all Char.isDigit) =
      true := by
    intro n
    simp only [Bool.and_eq_true, decide_eq_true_eq, List.all_eq_true]
    exact ⟨Nat.toDigits_ne_nil, toDigits_allDigits n⟩
  unfold exponentText
  by_cases hzero : shift = 0
  · rw [if_pos hzero, hzero]
    rfl
  · rw [if_neg hzero]
    by_cases hneg : shift < 0
    · have habs : -(shift.natAbs : ℤ) = shift := by omega
      rw [if_pos hneg]
      unfold exponentOf
      simp only [or_true, if_true]
      rw [if_pos (hdigits _), natOfDigits_toDigits]
      exact congrArg some habs
    · have habs : (shift.natAbs : ℤ) = shift := by omega
      rw [if_neg hneg]
      unfold exponentOf
      simp only [or_true, if_true]
      rw [if_pos (hdigits _), natOfDigits_toDigits]
      exact congrArg some habs

/-- A start of digits without a leading zero is without one. -/
lemma isWholePart_take {ds : List Char} {k : ℕ} (h : isWholePart ds = true) (hk : 0 < k)
    (hlt : k < ds.length) : isWholePart (ds.take k) = true := by
  have hall := isWholePart_digits h
  simp only [isWholePart, Bool.and_eq_true, Bool.or_eq_true, decide_eq_true_eq] at h ⊢
  refine ⟨List.all_eq_true.mpr fun c hc => hall c (List.mem_of_mem_take hc), Or.inr ⟨?_, ?_⟩⟩
  · intro hnil
    have := congrArg List.length hnil
    rw [List.length_take, List.length_nil] at this
    omega
  · rcases h.2 with rfl | hdigits
    · simp at hlt
      omega
    · rw [List.head?_take, if_neg (by omega)]
      exact hdigits.2

/-- The point and the exponent of a decimal undo each other. -/
lemma unsignedDecimal_placePoint {ds : List Char} (hds : isWholePart ds = true) {dotplace : ℤ}
    (hplace : dotplace ≤ ds.length) (shift : ℤ) :
    unsignedDecimal (placePoint ds dotplace ++ exponentText shift) =
      some (scaleBy 10 (natOfDigits ds) (shift + dotplace - ds.length)) := by
  obtain ⟨hhead, hpoint⟩ := exponentText_head shift
  have hexp := exponentOf_exponentText shift
  have hall := isWholePart_digits hds
  unfold placePoint
  by_cases hneg : dotplace ≤ 0
  · rw [if_pos hneg]
    have hfrac : ∀ c ∈ List.replicate (-dotplace).toNat '0' ++ ds, c.isDigit = true := by
      intro c hc
      rcases List.mem_append.mp hc with hc | hc
      · rw [List.eq_of_mem_replicate hc]
        decide
      · exact hall c hc
    have hne : List.replicate (-dotplace).toNat '0' ++ ds ≠ [] := by
      intro hnil
      rw [(List.append_eq_nil_iff.mp hnil).2] at hds
      exact absurd hds (by decide)
    have hread := @unsignedDecimal_fraction ['0'] _ _ _ (by decide) hfrac hne hhead hexp
    simp only [List.cons_append, List.nil_append] at hread ⊢
    rw [hread]
    have hzeros := natOfDigits_zeros_append ((-dotplace).toNat + 1) ds
    rw [List.replicate_succ, List.cons_append] at hzeros
    rw [hzeros, List.length_append, List.length_replicate]
    congr 2
    push_cast
    omega
  · rw [if_neg hneg]
    by_cases hlen : ds.length ≤ dotplace.toNat
    · rw [if_pos hlen]
      have hzero : dotplace.toNat - ds.length = 0 := by omega
      rw [hzero, List.replicate_zero, List.append_nil,
        unsignedDecimal_exponent hds hhead hpoint hexp]
      congr 2
      omega
    · rw [if_neg hlen, List.append_assoc, List.cons_append]
      have hdrop : ds.drop dotplace.toNat ≠ [] := by
        rw [Ne, List.drop_eq_nil_iff]
        omega
      rw [unsignedDecimal_fraction (isWholePart_take hds (by omega) (by omega))
        (fun c hc => hall c (List.mem_of_mem_drop hc)) hdrop hhead hexp, List.take_append_drop,
        List.length_drop]
      congr 2
      omega

lemma dotPlace_le {exponent leftdigits : ℤ} {length : ℕ} (h : leftdigits = exponent + length)
    (hpos : 0 < length) : dotPlace exponent leftdigits ≤ length := by
  unfold dotPlace
  split <;> omega

/-- A printed decimal is read back as its number. -/
lemma unsignedDecimal_unsignedText (coefficient : ℕ) (exponent : ℤ) :
    unsignedDecimal (unsignedText coefficient exponent) =
      some (scaleBy 10 coefficient exponent) := by
  have hds := isWholePart_toDigits coefficient
  have hlength : 0 < (Nat.toDigits 10 coefficient).length :=
    List.length_pos_iff.mpr Nat.toDigits_ne_nil
  have hplace := @dotPlace_le exponent _ _ rfl hlength
  rw [unsignedText, unsignedDecimal_placePoint hds hplace, natOfDigits_toDigits]
  congr 2
  omega

lemma unsignedText_ne_minus (coefficient : ℕ) (exponent : ℤ) (rest : List Char) :
    unsignedText coefficient exponent ≠ '-' :: rest := by
  intro h
  have hread := unsignedDecimal_unsignedText coefficient exponent
  rw [h] at hread
  cases hread

/-- A printed decimal denotes the decimal. -/
theorem tokenValue_decimalText (negative : Bool) (coefficient : ℕ) (exponent : ℤ) :
    tokenValue (decimalText negative coefficient exponent) =
      some (decimalValue negative coefficient exponent) := by
  have hread := unsignedDecimal_unsignedText coefficient exponent
  cases negative with
  | true => simp [tokenValue, decimalText, decimalValue, decimalOf, hread]
  | false =>
      simp only [decimalText, decimalValue, tokenValue, Bool.false_eq_true, if_false,
        List.nil_append]
      rw [decimalOf, hread]
      · rfl
      · exact unsignedText_ne_minus coefficient exponent

lemma exponentText_chars (shift : ℤ) : ∀ c ∈ exponentText shift, isNumberChar c = true := by
  unfold exponentText
  split
  · simp
  · intro c hc
    rcases List.mem_cons.mp hc with rfl | hc
    · decide
    · rcases List.mem_cons.mp hc with rfl | hc
      · split <;> decide
      · exact isNumberChar_of_isDigit (toDigits_allDigits _ c hc)

lemma placePoint_chars {ds : List Char} (hds : ∀ c ∈ ds, c.isDigit = true) (dotplace : ℤ) :
    ∀ c ∈ placePoint ds dotplace, isNumberChar c = true := by
  have hall : ∀ c ∈ ds, isNumberChar c = true := fun c hc => isNumberChar_of_isDigit (hds c hc)
  have hzeros : ∀ n, ∀ c ∈ List.replicate n '0', isNumberChar c = true := fun n c hc => by
    rw [List.eq_of_mem_replicate hc]
    decide
  unfold placePoint
  split
  · simp only [List.forall_mem_cons, List.forall_mem_append]
    exact ⟨by decide, by decide, hzeros _, hall⟩
  · split
    · simp only [List.forall_mem_append]
      exact ⟨hall, hzeros _⟩
    · simp only [List.forall_mem_cons, List.forall_mem_append]
      exact ⟨fun c hc => hall c (List.mem_of_mem_take hc), by decide,
        fun c hc => hall c (List.mem_of_mem_drop hc)⟩

/-- A printed decimal is a JSON number. -/
lemma isNumberToken_decimalText (negative : Bool) (coefficient : ℕ) (exponent : ℤ) :
    isNumberToken (decimalText negative coefficient exponent) = true := by
  rw [isNumberToken, isSome_decimalOf, tokenValue_decimalText, Bool.and_eq_true]
  refine ⟨List.all_eq_true.mpr ?_, rfl⟩
  have hsign : ∀ c ∈ (if negative then ['-'] else []), isNumberChar c = true := by
    cases negative with
    | false => exact List.forall_mem_nil _
    | true => exact List.forall_mem_singleton.mpr (by decide)
  unfold decimalText unsignedText
  simp only [List.forall_mem_append]
  exact ⟨hsign, placePoint_chars (toDigits_allDigits coefficient) _, exponentText_chars _⟩

end CivicGate
