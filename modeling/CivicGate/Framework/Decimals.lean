import CivicGate.Framework.Json.Decimal
import CivicGate.Framework.Json.FloatBounds
import Mathlib.Tactic.Linarith
import Mathlib.Tactic.Ring

/-!
# Decimals in normal form

A decimal without trailing zeros in its coefficient is determined by its number
(`decimalValue_injective`), and taking the zeros away keeps the number (`stripZeros_spec`).

`fixedText` is `format(value, "f")`; `readDecimal` makes a `Decimal` of a JSON number as the
constructor does, without rounding.  None of these operations of Python's `decimal` consults the
context.
-/

namespace CivicGate

/-- A printed integer is a JSON number. -/
lemma isNumberToken_printInt (n : ℤ) : isNumberToken (printInt n) = true := by
  rw [isNumberToken, isSome_decimalOf, tokenValue_of_readInt (readInt_printInt n),
    Bool.and_eq_true]
  exact ⟨List.all_eq_true.mpr (printInt_numberChars n), rfl⟩

/-! ## Normal form -/

/-- Takes at most `n` zeros off the end of a coefficient. -/
def stripZeros : ℕ → ℕ → ℤ → ℕ × ℤ
  | 0, coefficient, exponent => (coefficient, exponent)
  | n + 1, coefficient, exponent =>
    if coefficient % 10 = 0 then stripZeros n (coefficient / 10) (exponent + 1)
    else (coefficient, exponent)

/-- A positive coefficient loses all its zeros within the number of its digits. -/
lemma stripZeros_spec {n coefficient : ℕ} {exponent : ℤ} (hpos : 0 < coefficient)
    (hlt : coefficient < 10 ^ n) :
    (stripZeros n coefficient exponent).1 % 10 ≠ 0 ∧
      exponent ≤ (stripZeros n coefficient exponent).2 ∧
        scaleBy 10 (stripZeros n coefficient exponent).1 (stripZeros n coefficient exponent).2 =
          scaleBy 10 coefficient exponent := by
  induction n generalizing coefficient exponent with
  | zero => omega
  | succ n ih =>
      by_cases hzero : coefficient % 10 = 0
      · rw [stripZeros, if_pos hzero]
        have hlt' : coefficient / 10 < 10 ^ n := by
          rw [pow_succ] at hlt
          omega
        have hpos' : 0 < coefficient / 10 := by omega
        obtain ⟨hmod, hle, hvalue⟩ := @ih _ (exponent + 1) hpos' hlt'
        refine ⟨hmod, by omega, hvalue.trans ?_⟩
        have hten : ((10 * (coefficient / 10) : ℕ) : ℚ) = (coefficient : ℕ) := by
          rw [Nat.mul_div_cancel' (Nat.dvd_of_mod_eq_zero hzero)]
        rw [scaleBy_eq, scaleBy_eq, zpow_add₀ (by norm_num), zpow_one, ← hten]
        push_cast
        ring
      · rw [stripZeros, if_neg hzero]
        exact ⟨hzero, le_refl _, rfl⟩

/-- The decimal is zero without sign or exponent, or its coefficient has no zero at the end. -/
def IsNormal (negative : Bool) (coefficient : ℕ) (exponent : ℤ) : Prop :=
  (negative = false ∧ coefficient = 0 ∧ exponent = 0) ∨ coefficient % 10 ≠ 0

/-- Coefficients without zeros at the end are equal where their numbers are. -/
lemma scaleBy_injective {c c' : ℕ} {e e' : ℤ} (hc : c % 10 ≠ 0) (hc' : c' % 10 ≠ 0)
    (h : scaleBy 10 c e = scaleBy 10 c' e') : c = c' ∧ e = e' := by
  wlog hle : e ≤ e' generalizing c c' e e'
  · obtain ⟨hcoefficient, hexponent⟩ := this hc' hc h.symm (by omega)
    exact ⟨hcoefficient.symm, hexponent.symm⟩
  obtain ⟨k, rfl⟩ := Int.le.dest hle
  have hten : (10 : ℚ) ^ e ≠ 0 := zpow_ne_zero _ (by norm_num)
  rw [scaleBy_eq, scaleBy_eq, zpow_add₀ (by norm_num), zpow_natCast] at h
  have hmul : (c : ℚ) = c' * 10 ^ k := by
    refine mul_right_cancel₀ hten ?_
    push_cast at h
    rw [h]
    ring
  have hnat : c = c' * 10 ^ k := by exact_mod_cast hmul
  cases k with
  | zero => exact ⟨by rw [hnat, pow_zero, mul_one], by simp⟩
  | succ k =>
      rw [pow_succ, ← mul_assoc] at hnat
      omega

lemma scaleBy_pos {c : ℕ} {e : ℤ} (h : c % 10 ≠ 0) : 0 < scaleBy 10 c e := by
  rw [scaleBy_eq]
  have hc : (0 : ℚ) < c := by
    norm_cast
    omega
  exact mul_pos hc (zpow_pos (by norm_num) _)

/-- Decimals in normal form are equal where their numbers are. -/
theorem decimalValue_injective {n n' : Bool} {c c' : ℕ} {e e' : ℤ} (h : IsNormal n c e)
    (h' : IsNormal n' c' e') (heq : decimalValue n c e = decimalValue n' c' e') :
    n = n' ∧ c = c' ∧ e = e' := by
  have hzero : ∀ {n : Bool} {c : ℕ} {e : ℤ}, c % 10 ≠ 0 →
      decimalValue false 0 0 ≠ decimalValue n c e := by
    intro n c e hc heq
    have hpos := scaleBy_pos (e := e) hc
    have hleft : decimalValue false 0 0 = 0 := rfl
    rw [hleft] at heq
    cases n with
    | true =>
        rw [decimalValue, if_pos rfl] at heq
        linarith
    | false =>
        rw [decimalValue, if_neg (by decide)] at heq
        linarith
  rcases h with ⟨rfl, rfl, rfl⟩ | hc <;> rcases h' with ⟨rfl, rfl, rfl⟩ | hc'
  · exact ⟨rfl, rfl, rfl⟩
  · exact absurd heq (hzero hc')
  · exact absurd heq.symm (hzero hc)
  · have hpos := scaleBy_pos (e := e) hc
    have hpos' := scaleBy_pos (e := e') hc'
    unfold decimalValue at heq
    cases n <;> cases n' <;> simp only [if_true, Bool.false_eq_true, if_false] at heq
    · exact ⟨rfl, scaleBy_injective hc hc' heq⟩
    · linarith
    · linarith
    · exact ⟨rfl, scaleBy_injective hc hc' (neg_injective heq)⟩

/-! ## Reading -/

/-- The digits before the point, those after it and the exponent of an unsigned JSON number. -/
def unsignedParts (cs : List Char) : Option (List Char × List Char × ℤ) :=
  let whole := cs.takeWhile Char.isDigit
  if isWholePart whole then
    match cs.dropWhile Char.isDigit with
    | '.' :: rest =>
      let frac := rest.takeWhile Char.isDigit
      if frac = [] then none
      else (exponentOf (rest.dropWhile Char.isDigit)).map fun e => (whole, frac, e)
    | tail => (exponentOf tail).map fun e => (whole, [], e)
  else none

/-- The sign and the parts of a JSON number. -/
def numberParts : List Char → Option (Bool × List Char × List Char × ℤ)
  | '-' :: rest => (unsignedParts rest).map (true, ·)
  | cs => (unsignedParts cs).map (false, ·)

/-- The coefficient and the exponent of `Decimal(token)`. -/
def ofParts (whole frac : List Char) (e : ℤ) : ℕ × ℤ :=
  (natOfDigits (whole ++ frac), e - frac.length)

lemma unsignedDecimal_eq (cs : List Char) : unsignedDecimal cs =
    (unsignedParts cs).map fun p =>
      scaleBy 10 (ofParts p.1 p.2.1 p.2.2).1 (ofParts p.1 p.2.1 p.2.2).2 := by
  unfold unsignedDecimal unsignedParts
  by_cases hwhole : isWholePart (cs.takeWhile Char.isDigit) = true
  · simp only [hwhole, if_true]
    generalize cs.dropWhile Char.isDigit = tail
    have hwholeTail : ∀ tail, (exponentOf tail).map
        (fun e => scaleBy 10 (natOfDigits (cs.takeWhile Char.isDigit)) e) =
          ((exponentOf tail).map fun e => (cs.takeWhile Char.isDigit, [], e)).map fun p =>
            scaleBy 10 (ofParts p.1 p.2.1 p.2.2).1 (ofParts p.1 p.2.1 p.2.2).2 := by
      intro tail
      rw [Option.map_map]
      simp [Function.comp_def, ofParts]
    cases tail with
    | nil => exact hwholeTail []
    | cons c rest =>
        by_cases hpoint : c = '.'
        · subst hpoint
          simp only
          split_ifs
          · rfl
          · rw [Option.map_map]
            rfl
        · -- Both sides branch on the point, by one match or by two.
          repeat' split
          all_goals first
            | exact hwholeTail _
            | exact absurd (List.cons.inj ‹_ :: _ = '.' :: _›).1 hpoint
  · simp only [hwhole, if_false, Bool.false_eq_true]
    rfl

/-- The number of a token is that of its parts. -/
lemma tokenValue_eq (cs : List Char) : tokenValue cs =
    (numberParts cs).map fun p => decimalValue p.1 (ofParts p.2.1 p.2.2.1 p.2.2.2).1
      (ofParts p.2.1 p.2.2.1 p.2.2.2).2 := by
  unfold tokenValue
  by_cases hminus : ∃ rest, cs = '-' :: rest
  · obtain ⟨rest, rfl⟩ := hminus
    rw [decimalOf, numberParts, unsignedDecimal_eq, Option.map_map, Option.map_map,
      Option.map_map]
    rfl
  · have hne : ∀ rest, cs = '-' :: rest → False := fun rest h => hminus ⟨rest, h⟩
    rw [decimalOf, numberParts, unsignedDecimal_eq, Option.map_map, Option.map_map,
      Option.map_map]
    · rfl
    · exact hne
    · exact hne

lemma unsignedParts_fraction {whole frac : List Char} (hwhole : isWholePart whole = true)
    (hfrac : ∀ c ∈ frac, c.isDigit = true) (hne : frac ≠ []) :
    unsignedParts (whole ++ '.' :: frac) = some (whole, frac, 0) := by
  have hpoint : NoDigitHead ('.' :: frac) := by
    intro c hc
    obtain rfl := Option.some.inj hc
    decide
  have hend : NoDigitHead [] := by
    intro c hc
    cases hc
  have hdigits := isWholePart_digits hwhole
  have htake := takeWhile_digits hfrac hend
  have hdrop := dropWhile_digits hfrac hend
  rw [List.append_nil] at htake hdrop
  rw [unsignedParts, takeWhile_digits hdigits hpoint, dropWhile_digits hdigits hpoint]
  simp only [hwhole, if_true, htake, hdrop, if_neg hne]
  rfl

lemma unsignedParts_whole {whole : List Char} (hwhole : isWholePart whole = true) :
    unsignedParts whole = some (whole, [], 0) := by
  have hend : NoDigitHead [] := by
    intro c hc
    cases hc
  have hdigits := isWholePart_digits hwhole
  have htake := takeWhile_digits hdigits hend
  have hdrop := dropWhile_digits hdigits hend
  rw [List.append_nil] at htake hdrop
  rw [unsignedParts, htake, hdrop]
  simp only [hwhole, if_true]
  rfl

/-! ## Printing -/

/-- `format(value, "f")` without its sign. -/
def unsignedFixed (coefficient : ℕ) (exponent : ℤ) : List Char :=
  let digits := Nat.toDigits 10 coefficient
  placePoint digits ((if coefficient = 0 then min exponent 0 else exponent) + digits.length)

/-- `format(value, "f")` -/
def fixedText (negative : Bool) (coefficient : ℕ) (exponent : ℤ) : List Char :=
  (if negative then ['-'] else []) ++ unsignedFixed coefficient exponent

lemma isWholePart_append_zeros {ds : List Char} (h : isWholePart ds = true) (hne : ds ≠ ['0'])
    (n : ℕ) : isWholePart (ds ++ List.replicate n '0') = true := by
  simp only [isWholePart, Bool.and_eq_true, Bool.or_eq_true, decide_eq_true_eq,
    List.all_append] at h ⊢
  obtain ⟨hall, hdigits⟩ := h
  obtain ⟨hnil, hhead⟩ := hdigits.resolve_left hne
  refine ⟨⟨hall, List.all_eq_true.mpr fun c hc => ?_⟩, Or.inr ⟨?_, ?_⟩⟩
  · rw [List.eq_of_mem_replicate hc]
    decide
  · exact fun h => hnil (List.append_eq_nil_iff.mp h).1
  · rw [List.head?_append_of_ne_nil _ hnil]
    exact hhead

/-- A decimal in fixed notation has a coefficient of its digits and an exponent from the scale of
the decimal to zero. -/
lemma unsignedParts_unsignedFixed {coefficient : ℕ} {exponent : ℤ}
    (h : coefficient ≠ 0 ∨ exponent = 0) : ∃ whole frac,
      unsignedParts (unsignedFixed coefficient exponent) = some (whole, frac, 0) ∧
        ofParts whole frac 0 = (coefficient * 10 ^ exponent.toNat, min exponent 0) := by
  have hds := isWholePart_toDigits coefficient
  have hall := isWholePart_digits hds
  have hlength : 0 < (Nat.toDigits 10 coefficient).length :=
    List.length_pos_iff.mpr Nat.toDigits_ne_nil
  have hexponent : (if coefficient = 0 then min exponent 0 else exponent) = exponent := by
    rcases h with h | h
    · rw [if_neg h]
    · simp [h]
  have hnat : natOfDigits (Nat.toDigits 10 coefficient) = coefficient := natOfDigits_toDigits _
  rw [unsignedFixed, hexponent]
  generalize hdigits : Nat.toDigits 10 coefficient = ds at *
  unfold placePoint
  by_cases hneg : exponent + ds.length ≤ 0
  · -- The point stands before the digits.
    rw [if_pos hneg]
    have hfrac : ∀ c ∈ List.replicate (-(exponent + ds.length)).toNat '0' ++ ds,
        c.isDigit = true := by
      intro c hc
      rcases List.mem_append.mp hc with hc | hc
      · rw [List.eq_of_mem_replicate hc]
        decide
      · exact hall c hc
    have hzero : isWholePart ['0'] = true := by decide
    refine ⟨['0'], _, unsignedParts_fraction hzero hfrac ?_, ?_⟩
    · exact List.append_ne_nil_of_right_ne_nil _ (List.length_pos_iff.mp hlength)
    · have hzeros := natOfDigits_zeros_append ((-(exponent + ds.length)).toNat + 1) ds
      rw [List.replicate_succ, List.cons_append] at hzeros
      have hpower : exponent.toNat = 0 := by omega
      rw [ofParts, List.singleton_append, hzeros, hnat, hpower, pow_zero, mul_one,
        List.length_append, List.length_replicate]
      congr 1
      push_cast
      omega
  · rw [if_neg hneg]
    by_cases hle : ds.length ≤ (exponent + ds.length).toNat
    · -- The digits are followed by zeros.
      rw [if_pos hle]
      have hzeros : (exponent + ds.length).toNat - ds.length = exponent.toNat := by omega
      rw [hzeros]
      have hwhole : isWholePart (ds ++ List.replicate exponent.toNat '0') = true := by
        by_cases hzero : ds = ['0']
        · have hcoefficient : coefficient = 0 := by rw [← hnat, hzero]; rfl
          have hexp : exponent = 0 := h.resolve_left (not_not_intro hcoefficient)
          rw [hexp]
          simpa using hds
        · exact isWholePart_append_zeros hds hzero _
      refine ⟨_, [], unsignedParts_whole hwhole, ?_⟩
      rw [ofParts, List.append_nil, natOfDigits, Nat.ofDigitChars_append,
        Nat.ofDigitChars_replicate_zero, mul_comm]
      have hscale : min exponent 0 = 0 - (([] : List Char).length : ℤ) := by
        rw [List.length_nil]
        omega
      rw [hscale]
      exact congrArg (·, _) (congrArg (· * _) hnat)
    · -- The point stands within the digits.
      rw [if_neg hle]
      refine ⟨_, _, unsignedParts_fraction (isWholePart_take hds (by omega) (by omega))
        (fun c hc => hall c (List.mem_of_mem_drop hc)) ?_, ?_⟩
      · rw [Ne, List.drop_eq_nil_iff]
        omega
      · have hpower : exponent.toNat = 0 := by omega
        rw [ofParts, List.take_append_drop, hnat, hpower, pow_zero, mul_one, List.length_drop]
        congr 1
        omega

lemma length_unsignedFixed_le {coefficient : ℕ} {exponent : ℤ}
    (h : coefficient ≠ 0 ∨ exponent = 0) : (unsignedFixed coefficient exponent).length ≤
      2 + exponent.natAbs + (Nat.toDigits 10 coefficient).length := by
  have hexponent : (if coefficient = 0 then min exponent 0 else exponent) = exponent := by
    rcases h with h | h
    · rw [if_neg h]
    · simp [h]
  rw [unsignedFixed, hexponent]
  unfold placePoint
  split_ifs <;>
    simp only [List.length_cons, List.length_append, List.length_replicate, List.length_take,
      List.length_drop] <;> omega

/-- The text of a decimal in fixed notation has the parts of the decimal. -/
lemma numberParts_fixedText (negative : Bool) {coefficient : ℕ} {exponent : ℤ}
    (h : coefficient ≠ 0 ∨ exponent = 0) : ∃ whole frac,
      numberParts (fixedText negative coefficient exponent) = some (negative, whole, frac, 0) ∧
        ofParts whole frac 0 = (coefficient * 10 ^ exponent.toNat, min exponent 0) := by
  obtain ⟨whole, frac, hparts, hof⟩ := unsignedParts_unsignedFixed h
  refine ⟨whole, frac, ?_, hof⟩
  cases negative with
  | true =>
      show (unsignedParts (unsignedFixed coefficient exponent)).map _ = _
      rw [hparts, Option.map_some]
  | false =>
      have hminus : ∀ rest, unsignedFixed coefficient exponent ≠ '-' :: rest := by
        intro rest heq
        rw [heq] at hparts
        cases hparts
      show numberParts (unsignedFixed coefficient exponent) = _
      rw [numberParts, hparts, Option.map_some]
      exact hminus

lemma length_digits_le {n k : ℕ} (hk : 0 < k) (hn : n < 10 ^ k) :
    (Nat.toDigits 10 n).length ≤ k :=
  (Nat.length_toDigits_le_iff (by decide) hk).mpr hn

/-- The parts of a text in fixed notation denote the decimal. -/
lemma scaleBy_fixed {c : ℕ} {e : ℤ} : scaleBy 10 (c * 10 ^ e.toNat) (min e 0) = scaleBy 10 c e := by
  rw [scaleBy_eq, scaleBy_eq]
  rcases le_total e 0 with he | he
  · rw [Int.toNat_of_nonpos he, pow_zero, mul_one, min_eq_left he]
  · obtain ⟨k, rfl⟩ := Int.eq_ofNat_of_zero_le he
    rw [min_eq_right he, Int.toNat_natCast, zpow_zero, mul_one, zpow_natCast]
    push_cast
    rfl

end CivicGate
