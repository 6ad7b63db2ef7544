import Mathlib.Algebra.Order.Field.Rat

/-!
# Python floats

A finite `float` is an IEEE double, printed by `repr` as the shortest decimal that reads back
as the same double.  `roundDouble` is the rounding (to nearest, ties to even), `floatRepr` the
printing and `decimalOf` the reading of a decimal.

A `PyFloat` carries the text `repr` gives it, with the fact that it is that text: rounding the
decimal it denotes and printing the result changes nothing.  So floats compare by their text,
and reading a printed float back is the float (`PyFloat.ofDecimal_text`) with no argument about
digits.
-/

namespace CivicGate

/-! ## Rounding to a double -/

/-- `m · b ^ e` for an exponent of either sign. -/
def scaleBy (b m : ℕ) (e : ℤ) : ℚ :=
  if 0 ≤ e then (m * b ^ e.toNat : ℕ) else mkRat m (b ^ (-e).toNat)

/-- `⌊log₂ q⌋` for a positive rational. -/
def ratLog2 (q : ℚ) : ℤ :=
  let e : ℤ := (Nat.log2 q.num.natAbs : ℤ) - (Nat.log2 q.den : ℤ)
  if scaleBy 2 1 e ≤ q then e else e - 1

/-- The natural number nearest to a nonnegative rational, ties to even. -/
def roundHalfEven (q : ℚ) : ℕ :=
  let n := q.num.natAbs / q.den
  let r := q.num.natAbs % q.den
  if 2 * r < q.den then n
  else if q.den < 2 * r then n + 1
  else if n % 2 = 0 then n else n + 1

/-- The double nearest to a nonnegative rational; `none` where it overflows to infinity. -/
def roundDouble (q : ℚ) : Option ℚ :=
  if q = 0 then some 0
  else
    let e := max (ratLog2 q - 52) (-1074)
    let r := scaleBy 2 (roundHalfEven (q / scaleBy 2 1 e)) e
    if r < scaleBy 2 1 1024 then some r else none

/-! ## Printing -/

/-- `⌊log₁₀ q⌋` for a positive rational. -/
def ratLog10 (q : ℚ) : ℤ :=
  let e : ℤ := ((Nat.toDigits 10 q.num.natAbs).length : ℤ) - (Nat.toDigits 10 q.den).length
  if scaleBy 10 1 e ≤ q then e else e - 1

/-- Of the two decimals of `k` digits around a double, the closest that rounds to it. -/
def decimalOfLength (q : ℚ) (k : ℕ) : Option (ℕ × ℤ) :=
  let p := ratLog10 q - (k - 1)
  let below := (q / scaleBy 10 1 p).num.natAbs / (q / scaleBy 10 1 p).den
  let low := roundDouble (scaleBy 10 below p) = some q
  let high := roundDouble (scaleBy 10 (below + 1) p) = some q
  if low ∧ (¬ high ∨ q - scaleBy 10 below p ≤ scaleBy 10 (below + 1) p - q) then some (below, p)
  else if high then some (below + 1, p)
  else none

/-- The shortest decimal that rounds to a double, among those of `k` digits and more. -/
def shortestDecimal (q : ℚ) : ℕ → ℕ → ℕ × ℤ
  | 0, _ => (0, 0)
  | fuel + 1, k =>
    match decimalOfLength q k with
    | some d => d
    | none => shortestDecimal q fuel (k + 1)

/-- Drop the zeros a list of digits ends with. -/
def dropTrailingZeros (ds : List Char) : List Char := (ds.reverse.dropWhile (· = '0')).reverse

/-- The digits `ds` with the decimal point after the first `point` of them, as `repr` lays
them out. -/
def layoutFloat (ds : List Char) (point : ℤ) : List Char :=
  if point ≤ -4 ∨ 16 < point then
    let e := (point - 1).natAbs
    let exponent := (if e < 10 then ['0'] else []) ++ Nat.toDigits 10 e
    ds.take 1 ++ (if ds.length = 1 then [] else '.' :: ds.drop 1) ++
      'e' :: (if point - 1 < 0 then '-' else '+') :: exponent
  else if point ≤ 0 then '0' :: '.' :: (List.replicate (-point).toNat '0' ++ ds)
  else if ds.length ≤ point.toNat then
    ds ++ List.replicate (point.toNat - ds.length) '0' ++ ['.', '0']
  else ds.take point.toNat ++ '.' :: ds.drop point.toNat

/-- `repr` of the double of this sign and absolute value. -/
def floatRepr (negative : Bool) (q : ℚ) : List Char :=
  (if negative then ['-'] else []) ++
    if q = 0 then ['0', '.', '0']
    else
      let (m, p) := shortestDecimal q 17 1
      let ds := Nat.toDigits 10 m
      layoutFloat (dropTrailingZeros ds) (p + ds.length)

/-! ## Reading -/

/-- The characters a JSON number is made of. -/
def isNumberChar (c : Char) : Bool :=
  c.isDigit || c = '-' || c = '+' || c = '.' || c = 'e' || c = 'E'

/-- Digits without a superfluous leading zero. -/
def isWholePart (ds : List Char) : Bool :=
  ds.all Char.isDigit && (ds = ['0'] || (ds ≠ [] && ds.head? ≠ some '0'))

/-- The natural number a run of digits denotes. -/
def natOfDigits (ds : List Char) : ℕ := Nat.ofDigitChars 10 ds 0

/-- The exponent a number ends with; no suffix is exponent zero. -/
def exponentOf (cs : List Char) : Option ℤ :=
  let digits (ds : List Char) : Option ℕ :=
    if ds ≠ [] && ds.all Char.isDigit then some (natOfDigits ds) else none
  match cs with
  | [] => some 0
  | c :: rest =>
    if c = 'e' ∨ c = 'E' then
      match rest with
      | '-' :: ds => (digits ds).map fun n => -(n : ℤ)
      | '+' :: ds => (digits ds).map fun n => (n : ℤ)
      | ds => (digits ds).map fun n => (n : ℤ)
    else none

/-- The number an unsigned JSON number token denotes. -/
def unsignedDecimal (cs : List Char) : Option ℚ :=
  let whole := cs.takeWhile Char.isDigit
  if isWholePart whole then
    match cs.dropWhile Char.isDigit with
    | '.' :: rest =>
      let frac := rest.takeWhile Char.isDigit
      if frac = [] then none
      else (exponentOf (rest.dropWhile Char.isDigit)).map fun e =>
        scaleBy 10 (natOfDigits (whole ++ frac)) (e - frac.length)
    | tail => (exponentOf tail).map fun e => scaleBy 10 (natOfDigits whole) e
  else none

/-- The sign and the absolute value of the number a JSON number token denotes. -/
def decimalOf : List Char → Option (Bool × ℚ)
  | '-' :: rest => (unsignedDecimal rest).map (true, ·)
  | cs => (unsignedDecimal cs).map (false, ·)

/-! ## Floats -/

/-- The text is what `repr` prints for the double it denotes.  The three facts about its shape
that the JSON text needs hold of every `repr`. -/
def isFloatRepr (cs : List Char) : Bool :=
  cs.length ≤ 24 && cs.all isNumberChar && cs.any (fun c => c = '.' || c = 'e') &&
    ((decimalOf cs).bind fun d => (roundDouble d.2).map (floatRepr d.1)) = some cs

/-- A finite Python float, given by its `repr`. -/
structure PyFloat where
  text : List Char
  isRepr : isFloatRepr text = true
  deriving DecidableEq

/-- The float nearest to a rational of the given sign; `none` where it is infinite. -/
def PyFloat.ofDecimal (negative : Bool) (q : ℚ) : Option PyFloat :=
  (roundDouble q).bind fun r =>
    if h : isFloatRepr (floatRepr negative r) = true then some ⟨floatRepr negative r, h⟩ else none

/-- `float(token)` for a JSON number token. -/
def PyFloat.read (token : List Char) : Option PyFloat :=
  (decimalOf token).bind fun d => PyFloat.ofDecimal d.1 d.2

/-- The rational number a float is. -/
def PyFloat.value (x : PyFloat) : ℚ :=
  match decimalOf x.text with
  | some (true, q) => -((roundDouble q).getD 0)
  | some (false, q) => (roundDouble q).getD 0
  | none => 0

/-- The float nearest to a rational. -/
def PyFloat.ofRat (q : ℚ) : Option PyFloat := PyFloat.ofDecimal (q < 0) |q|

/-- A printed float reads back as itself. -/
theorem PyFloat.read_text (x : PyFloat) : PyFloat.read x.text = some x := by
  have h := x.isRepr
  simp only [isFloatRepr, Bool.and_eq_true, decide_eq_true_eq] at h
  obtain ⟨d, hd, hr⟩ := Option.bind_eq_some_iff.mp h.2
  obtain ⟨r, hround, hprint⟩ := Option.map_eq_some_iff.mp hr
  have hrepr : isFloatRepr (floatRepr d.1 r) = true := hprint ▸ x.isRepr
  simp only [PyFloat.read, hd, Option.bind_some, PyFloat.ofDecimal, hround, dif_pos hrepr]
  congr 1
  obtain ⟨text, isRepr⟩ := x
  simpa using hprint

lemma PyFloat.numberChars (x : PyFloat) : ∀ c ∈ x.text, isNumberChar c = true := by
  have h := x.isRepr
  simp only [isFloatRepr, Bool.and_eq_true] at h
  exact List.all_eq_true.mp h.1.1.2

lemma PyFloat.length_text_le (x : PyFloat) : x.text.length ≤ 24 := by
  have h := x.isRepr
  simp only [isFloatRepr, Bool.and_eq_true, decide_eq_true_eq] at h
  exact h.1.1.1

lemma PyFloat.exists_mark (x : PyFloat) : ∃ c ∈ x.text, c = '.' ∨ c = 'e' := by
  have h := x.isRepr
  simp only [isFloatRepr, Bool.and_eq_true] at h
  obtain ⟨c, hc, hmark⟩ := List.any_eq_true.mp h.1.2
  exact ⟨c, hc, by simpa using hmark⟩

/-! ## Numbers -/

/-- A Python number of type `int` or `float`; `bool` is a type of its own here. -/
inductive PyNum
  | int (n : ℤ)
  | float (x : PyFloat)
  deriving DecidableEq

/-- The rational number two Python numbers are compared by. -/
def PyNum.value : PyNum → ℚ
  | .int n => n
  | .float x => x.value

/-- The float a number is converted to; `none` where `float(n)` overflows. -/
def PyNum.toFloat : PyNum → Option PyFloat
  | .int n => PyFloat.ofRat n
  | .float x => some x

/-- `a + b`; `none` where the sum is infinite or an integer is too large to become a float. -/
def PyNum.add : PyNum → PyNum → Option PyNum
  | .int a, .int b => some (.int (a + b))
  | a, b => do
    let a ← a.toFloat
    let b ← b.toFloat
    (PyFloat.ofRat (a.value + b.value)).map .float

example : PyFloat.read ['1', '.', '5', '0'] = PyFloat.read ['1', '5', 'E', '-', '1'] := by
  decide +kernel

end CivicGate
