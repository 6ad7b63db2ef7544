import CivicGate.Framework.Decimals
import CivicGate.Framework.Exceptions
import CivicGate.Framework.Json.RoundTrip

/-!
# Exact amounts

`decimal_token`, `exact_amount` and `amount_text` of `channel_b/faa_money_v1.py`.  An accepted
amount comes back in normal form, so its text determines it (`amountText_law`).

Construction from a token or a tuple, comparison and `format` are exact in Python's `decimal`
whatever the context, so no context appears here.
-/

namespace CivicGate.ChannelB

/-- A number of a response object. -/
inductive Number
  | int (n : ℤ)
  | decimal (d : PyDecimal)
  | float (x : PyFloat)
  deriving DecidableEq

/-- A response value.  Values of other types are rejected wherever a `float` is. -/
abbrev Value := Tree String Number

/-- `decimal_token(token)`; a `ValueError` is its text. -/
def decimalToken (token : List Char) : Except String PyDecimal :=
  match if token.length ≤ 96 then numberParts token else none with
  | some (negative, whole, frac, e) =>
    if e.natAbs ≤ 38 then .ok (.finite negative (ofParts whole frac e).1 (ofParts whole frac e).2)
    else .error "FAA monetary token or exponent unsupported"
  | none => .error "FAA monetary token or exponent unsupported"

/-- The `Decimal` that `exact_amount` starts from. -/
def startAmount : Value → Except String PyDecimal
  | .str s => decimalToken s.toList
  | .num (.int n) => do
    ensure (readableInt n) "Exceeds the limit (4300 digits) for integer string conversion"
    decimalToken (printInt n)
  | .num (.decimal d) => .ok d
  | _ => .error "FAA amount requires exact numeric evidence; float unsupported"

/-- The part of `exact_amount` after the conversion. -/
def boundAmount : PyDecimal → Except String PyDecimal
  | .nonfinite _ => .error "FAA amount must be finite"
  | .finite negative coefficient exponent => do
    let digits := (Nat.toDigits 10 coefficient).length
    ensure (exponent.natAbs ≤ 38 && digits ≤ 38) "FAA monetary precision unsupported"
    ensure (scaleBy 10 coefficient exponent < 10 ^ 24) "FAA monetary magnitude unsupported"
    if coefficient = 0 then return .finite false 0 0
    else do
      let stripped := stripZeros digits coefficient exponent
      ensure (-12 ≤ stripped.2) "FAA monetary scale unsupported"
      return .finite negative stripped.1 stripped.2

/-- `exact_amount(value)` -/
def exactAmount (v : Value) : Except String PyDecimal := startAmount v >>= boundAmount

/-- `format(value, "f")` of a finite decimal. -/
def formatFixed : PyDecimal → String
  | .finite negative coefficient exponent =>
    String.ofList (fixedText negative coefficient exponent)
  | .nonfinite text => text

/-- `amount_text(value)` -/
def amountText (v : Value) : Except String String := do
  return formatFixed (← exactAmount v)

example : amountText (.str "-1.2300e+2") = .ok "-123" := by decide
example : amountText (.str "-0.000") = .ok "0" := by decide

/-! ## Accepted amounts -/

/-- The number of an amount that is given as text, as an integer or as a finite decimal. -/
def amountValue : Value → Option ℚ
  | .str s => tokenValue s.toList
  | .num (.int n) => some n
  | .num (.decimal (.finite negative coefficient exponent)) =>
    some (decimalValue negative coefficient exponent)
  | _ => none

/-- What `exact_amount` returns. -/
structure IsAmount (negative : Bool) (coefficient : ℕ) (exponent : ℤ) : Prop where
  normal : IsNormal negative coefficient exponent
  scale : -12 ≤ exponent
  magnitude : scaleBy 10 coefficient exponent < 10 ^ 24

lemma decimalToken_eq_ok {token : List Char} {d : PyDecimal} : decimalToken token = .ok d ↔
    token.length ≤ 96 ∧ ∃ negative whole frac e,
      numberParts token = some (negative, whole, frac, e) ∧ e.natAbs ≤ 38 ∧
        d = .finite negative (ofParts whole frac e).1 (ofParts whole frac e).2 := by
  unfold decimalToken
  by_cases hlength : token.length ≤ 96
  · rw [if_pos hlength]
    cases hparts : numberParts token with
    | none => simp
    | some parts =>
        obtain ⟨negative, whole, frac, e⟩ := parts
        simp only [Option.some.injEq, Prod.mk.injEq, hlength, true_and]
        split_ifs with he
        · constructor
          · intro h
            exact ⟨_, _, _, _, ⟨rfl, rfl, rfl, rfl⟩, he, (Except.ok.inj h).symm⟩
          · rintro ⟨_, _, _, _, ⟨rfl, rfl, rfl, rfl⟩, -, rfl⟩
            rfl
        · constructor
          · intro h
            cases h
          · rintro ⟨_, _, _, _, ⟨rfl, rfl, rfl, rfl⟩, he', -⟩
            exact absurd he' he
  · simp [hlength]

/-- The conversion keeps the number. -/
lemma startAmount_value {v : Value} {negative : Bool} {c : ℕ} {e : ℤ}
    (h : startAmount v = .ok (.finite negative c e)) :
    amountValue v = some (decimalValue negative c e) := by
  have htoken : ∀ {cs : List Char}, decimalToken cs = .ok (.finite negative c e) →
      tokenValue cs = some (decimalValue negative c e) := by
    intro cs hcs
    obtain ⟨-, n, whole, frac, e', hparts, -, heq⟩ := decimalToken_eq_ok.mp hcs
    obtain ⟨rfl, rfl, rfl⟩ := PyDecimal.finite.inj heq
    rw [tokenValue_eq, hparts, Option.map_some]
  match v with
  | .str s => exact htoken h
  | .num (.int n) =>
      obtain ⟨_, -, h⟩ := Except.bind_eq_ok.mp h
      have hread := htoken h
      rw [tokenValue_of_readInt (readInt_printInt n)] at hread
      exact hread
  | .num (.decimal d) =>
      obtain rfl := Except.ok.inj h
      rfl

lemma decimalValue_zero (negative : Bool) (e : ℤ) : decimalValue negative 0 e = 0 := by
  have hzero : scaleBy 10 0 e = 0 := by rw [scaleBy_eq, Nat.cast_zero, zero_mul]
  cases negative <;> simp [decimalValue, hzero]

/-- What is within the bounds comes back in normal form, with its number. -/
lemma boundAmount_eq_ok {negative : Bool} {c : ℕ} {e : ℤ} {d : PyDecimal}
    (h : boundAmount (.finite negative c e) = .ok d) : ∃ n c' e', d = .finite n c' e' ∧
      IsAmount n c' e' ∧ decimalValue n c' e' = decimalValue negative c e := by
  unfold boundAmount at h
  obtain ⟨_, hprecision, h⟩ := Except.bind_eq_ok.mp h
  obtain ⟨_, hmagnitude, h⟩ := Except.bind_eq_ok.mp h
  have hlt : scaleBy 10 c e < 10 ^ 24 := of_decide_eq_true (ensure_eq_ok.mp hmagnitude)
  by_cases hzero : c = 0
  · rw [if_pos hzero] at h
    obtain rfl := Except.pure_eq_ok.mp h
    refine ⟨false, 0, 0, rfl, ⟨.inl ⟨rfl, rfl, rfl⟩, by decide, ?_⟩, ?_⟩
    · rw [scaleBy_eq]
      norm_num
    · rw [hzero, decimalValue_zero, decimalValue_zero]
  · rw [if_neg hzero] at h
    obtain ⟨_, hscale, h⟩ := Except.bind_eq_ok.mp h
    obtain rfl := Except.pure_eq_ok.mp h
    have hdigits : c < 10 ^ (Nat.toDigits 10 c).length :=
      (Nat.length_toDigits_le_iff (by decide) Nat.length_toDigits_pos).mp (le_refl _)
    obtain ⟨hmod, -, hvalue⟩ := @stripZeros_spec _ c e (Nat.pos_of_ne_zero hzero) hdigits
    refine ⟨negative, _, _, rfl, ⟨.inr hmod, of_decide_eq_true (ensure_eq_ok.mp hscale), ?_⟩, ?_⟩
    · rw [hvalue]
      exact hlt
    · rw [decimalValue, decimalValue, hvalue]

/-- An accepted amount is returned exactly, in normal form. -/
lemma exactAmount_eq_ok {v : Value} {d : PyDecimal} (h : exactAmount v = .ok d) :
    ∃ n c e, d = .finite n c e ∧ IsAmount n c e ∧ amountValue v = some (decimalValue n c e) := by
  obtain ⟨start, hstart, hbound⟩ := Except.bind_eq_ok.mp h
  cases start with
  | nonfinite text => cases hbound
  | finite negative c e =>
      obtain ⟨n, c', e', hd, hamount, hvalue⟩ := boundAmount_eq_ok hbound
      exact ⟨n, c', e', hd, hamount, by rw [startAmount_value hstart, hvalue]⟩

/-! ## Canonical texts -/

section

variable {negative : Bool} {c : ℕ} {e : ℤ} (h : IsAmount negative c e)

include h

lemma IsAmount.printable : c ≠ 0 ∨ e = 0 := by
  rcases h.normal with ⟨-, -, he⟩ | hc
  · exact .inr he
  · refine .inl ?_
    rintro rfl
    exact hc rfl

/-- The digits and the exponent of an amount are bounded by its magnitude and its scale. -/
lemma IsAmount.bounds : e.natAbs ≤ 23 ∧ c < 10 ^ 36 := by
  have hscale := h.scale
  have hlt := h.magnitude
  rw [scaleBy_eq] at hlt
  push_cast at hlt
  have hten : (0 : ℚ) < 10 ^ e := zpow_pos (by norm_num) _
  constructor
  · rcases h.printable with hc | rfl
    · by_contra hlarge
      have hle : (24 : ℤ) ≤ e := by omega
      have hone : (1 : ℚ) ≤ c := by exact_mod_cast Nat.one_le_iff_ne_zero.mpr hc
      have hpower : (10 : ℚ) ^ (24 : ℤ) ≤ 10 ^ e := zpow_le_zpow_right₀ (by norm_num) hle
      have hbound : (10 : ℚ) ^ e ≤ c * 10 ^ e := le_mul_of_one_le_left hten.le hone
      have h24 : (10 : ℚ) ^ (24 : ℤ) = 10 ^ 24 := by norm_cast
      linarith
    · decide
  · have hpower : (10 : ℚ) ^ (-12 : ℤ) ≤ 10 ^ e := zpow_le_zpow_right₀ (by norm_num) hscale
    have hprod : (c : ℚ) * 10 ^ (-12 : ℤ) < 10 ^ 24 :=
      lt_of_le_of_lt (mul_le_mul_of_nonneg_left hpower (Nat.cast_nonneg c)) hlt
    have hq : (c : ℚ) < 10 ^ 36 := by
      have hcancel : (c : ℚ) * 10 ^ (-12 : ℤ) * 10 ^ 12 = c := by
        rw [mul_assoc]
        norm_num
      have hstep := mul_lt_mul_of_pos_right hprod (by norm_num : (0 : ℚ) < 10 ^ 12)
      rw [hcancel] at hstep
      calc (c : ℚ) < 10 ^ 24 * 10 ^ 12 := hstep
        _ = 10 ^ 36 := by norm_num
    exact_mod_cast hq

/-- The text of an amount is accepted, and is the amount. -/
lemma IsAmount.exactAmount_text :
    exactAmount (.str (formatFixed (.finite negative c e))) = .ok (.finite negative c e) := by
  obtain ⟨hexponent, hc⟩ := h.bounds
  have hscale := h.scale
  have hdigits : (Nat.toDigits 10 c).length ≤ 36 := length_digits_le (by decide) hc
  obtain ⟨whole, frac, hparts, hof⟩ := numberParts_fixedText negative h.printable
  have hlength : (fixedText negative c e).length ≤ 96 := by
    have hunsigned := length_unsignedFixed_le h.printable
    have hsign : (if negative then ['-'] else []).length ≤ 1 := by cases negative <;> decide
    rw [fixedText, List.length_append]
    omega
  have htoken : decimalToken (fixedText negative c e) =
      .ok (.finite negative (c * 10 ^ e.toNat) (min e 0)) :=
    decimalToken_eq_ok.mpr ⟨hlength, negative, whole, frac, 0, hparts, by decide, by rw [hof]⟩
  have hstart : startAmount (.str (formatFixed (.finite negative c e))) =
      .ok (.finite negative (c * 10 ^ e.toNat) (min e 0)) := by
    rw [startAmount, formatFixed, String.toList_ofList, htoken]
  rw [exactAmount, hstart, Except.ok_bind, boundAmount]
  -- The coefficient of the text is that of the amount, with the zeros of a positive exponent.
  have hcoefficient : c * 10 ^ e.toNat < 10 ^ 36 := by
    rcases le_total e 0 with he | he
    · rw [Int.toNat_of_nonpos he, pow_zero, mul_one]
      exact hc
    · have hlt := h.magnitude
      rw [← scaleBy_fixed, min_eq_right he, scaleBy_eq, zpow_zero, mul_one] at hlt
      have hnat : c * 10 ^ e.toNat < 10 ^ 24 := by exact_mod_cast hlt
      exact hnat.trans (by decide)
  have hprecision : ((min e 0).natAbs ≤ 38 &&
      (Nat.toDigits 10 (c * 10 ^ e.toNat)).length ≤ 38) = true := by
    have hlen := length_digits_le (n := c * 10 ^ e.toNat) (by decide) hcoefficient
    simp only [Bool.and_eq_true, decide_eq_true_eq]
    omega
  have hmagnitude : scaleBy 10 (c * 10 ^ e.toNat) (min e 0) < 10 ^ 24 := by
    rw [scaleBy_fixed]
    exact h.magnitude
  simp only [hprecision, hmagnitude, decide_true, ensure_true, Except.ok_bind]
  by_cases hzero : c * 10 ^ e.toNat = 0
  · rw [if_pos hzero]
    have hc0 : c = 0 := (Nat.mul_eq_zero.mp hzero).resolve_right (by positivity)
    rcases h.normal with ⟨rfl, rfl, rfl⟩ | hmod
    · rfl
    · exact absurd (by rw [hc0]) hmod
  · rw [if_neg hzero]
    have hlt : c * 10 ^ e.toNat < 10 ^ (Nat.toDigits 10 (c * 10 ^ e.toNat)).length :=
      (Nat.length_toDigits_le_iff (by decide) Nat.length_toDigits_pos).mp (le_refl _)
    obtain ⟨hmod, -, hvalue⟩ :=
      @stripZeros_spec _ _ (min e 0) (Nat.pos_of_ne_zero hzero) hlt
    rw [scaleBy_fixed] at hvalue
    have hnormal : c % 10 ≠ 0 := by
      rcases h.normal with ⟨-, rfl, -⟩ | hc
      · simp at hzero
      · exact hc
    obtain ⟨hfirst, hsecond⟩ := scaleBy_injective hmod hnormal hvalue
    rw [hfirst, hsecond]
    simp only [hscale, decide_true, ensure_true, Except.ok_bind]
    rfl

end

lemma amountText_eq_ok {v : Value} {text : String} (h : amountText v = .ok text) :
    ∃ n c e, exactAmount v = .ok (.finite n c e) ∧ IsAmount n c e ∧
      amountValue v = some (decimalValue n c e) ∧ text = formatFixed (.finite n c e) := by
  obtain ⟨d, hd, htext⟩ := Except.bind_eq_ok.mp h
  obtain ⟨n, c, e, rfl, hamount, hvalue⟩ := exactAmount_eq_ok hd
  exact ⟨n, c, e, hd, hamount, hvalue, (Except.pure_eq_ok.mp htext).symm⟩

/-- The text of an amount is accepted again, as the same amount and with the same text. -/
lemma amountText_again {v : Value} {text : String} (h : amountText v = .ok text) :
    exactAmount (.str text) = exactAmount v ∧ amountText (.str text) = .ok text := by
  obtain ⟨n, c, e, hexact, hamount, -, rfl⟩ := amountText_eq_ok h
  have hagain := hamount.exactAmount_text
  rw [hagain, hexact]
  exact ⟨rfl, by rw [amountText, hagain]; rfl⟩

/-- Amounts have one text if and only if they are one number. -/
lemma amountText_eq_iff {v v' : Value} {text text' : String} (h : amountText v = .ok text)
    (h' : amountText v' = .ok text') : text = text' ↔ amountValue v = amountValue v' := by
  obtain ⟨n, c, e, hexact, hamount, hvalue, rfl⟩ := amountText_eq_ok h
  obtain ⟨n', c', e', hexact', hamount', hvalue', rfl⟩ := amountText_eq_ok h'
  rw [hvalue, hvalue', Option.some.injEq]
  constructor
  · intro htext
    have hboth := hamount.exactAmount_text
    rw [htext, hamount'.exactAmount_text] at hboth
    obtain ⟨rfl, rfl, rfl⟩ := PyDecimal.finite.inj (Except.ok.inj hboth)
    rfl
  · intro heq
    obtain ⟨rfl, rfl, rfl⟩ := decimalValue_injective hamount.normal hamount'.normal heq
    rfl

/-- An accepted amount is returned exactly; its text is accepted again, as the same amount and with
the same text; and texts are equal where the numbers are. -/
theorem amountText_law :
    (∀ (v : Value) (d : PyDecimal), exactAmount v = .ok d → ∃ negative coefficient exponent,
      d = .finite negative coefficient exponent ∧
        amountValue v = some (decimalValue negative coefficient exponent)) ∧
    (∀ (v : Value) (text : String), amountText v = .ok text →
      exactAmount (.str text) = exactAmount v ∧ amountText (.str text) = .ok text) ∧
    (∀ (v v' : Value) (text text' : String), amountText v = .ok text → amountText v' = .ok text' →
      (text = text' ↔ amountValue v = amountValue v')) := by
  refine ⟨fun v d h => ?_, fun v text h => amountText_again h,
    fun v v' text text' h h' => amountText_eq_iff h h'⟩
  obtain ⟨n, c, e, hd, -, hvalue⟩ := exactAmount_eq_ok h
  exact ⟨n, c, e, hd, hvalue⟩

/-- `"1.50"` and `Decimal("15E-1")` have one text. -/
theorem amountText_law_spelling : ∃ text, amountText (.str "1.50") = .ok text ∧
    amountText (.num (.decimal (.finite false 15 (-1)))) = .ok text := by
  have hfirst : amountText (.str "1.50") = .ok "1.5" := by decide
  cases hsecond : amountText (.num (.decimal (.finite false 15 (-1)))) with
  | error message =>
      have hok : (amountText (.num (.decimal (.finite false 15 (-1))))).isOk = true := by
        decide
      rw [hsecond] at hok
      cases hok
  | ok text =>
      have hsame := (amountText_law.2.2 _ _ _ _ hfirst hsecond).mpr (by decide)
      exact ⟨text, hsame ▸ hfirst, rfl⟩

end CivicGate.ChannelB
