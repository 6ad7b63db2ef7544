import CivicGate.Framework.Json.Decimal
import CivicGate.Rq6.ExactRoundTrip

/-!
# Evidence values

What `exact_json` of `rq6/core.py` takes: `Value` with every number Python has for it, so also a
`Decimal` of any spelling, a `float` and an `ExactNumber` with the literal of an integer.
`exactJson` prints such a value and `decodeEvidence` reads one back.

The exponent of a decimal has no bound here; Python raises for literals whose exponent has more
than eighteen digits.  Nor has the nesting, which Python bounds by its recursion limit.
-/

namespace CivicGate.Rq6

/-! ## Numbers -/

/-- A number of an evidence value. -/
inductive Number
  | int (n : ℤ)
  /-- An `ExactNumber`. -/
  | exact (literal : Token)
  | decimal (d : PyDecimal)
  | float (x : PyFloat)
  deriving DecidableEq

/-- A value `exact_json` takes. -/
abbrev Evidence := Tree String Number

/-- What `exact_json` prints for a number; `none` where it raises. -/
def Number.chars : Number → Option (List Char)
  | .int n => if readableInt n then some (printInt n) else none
  | .exact literal => some literal.chars
  | .decimal (.finite negative coefficient exponent) =>
    some (decimalText negative coefficient exponent)
  | .decimal (.nonfinite _) => none
  | .float x => some x.text

/-- The number as it is printed. -/
def Number.token (n : Number) : Option Token := n.chars.bind token?

/-- What Python compares a number by. -/
def Number.value? : Number → Option ℚ
  | .int n => some n
  | .exact literal => tokenValue literal.chars
  | .decimal (.finite negative coefficient exponent) =>
    some (decimalValue negative coefficient exponent)
  | .decimal (.nonfinite _) => none
  | .float x => some x.value

/-- The number a token is read as: an integer, or an `ExactNumber`. -/
def Number.ofToken (literal : Token) : Option Number :=
  match readInt literal.chars with
  | some n => if readableInt n then some (.int n) else none
  | none => some (.exact literal)

/-! ## Text -/

/-- `exact_json(value)`, as the text its UTF-8 bytes hold; `none` where it raises. -/
def exactJson (v : Evidence) : Option String :=
  (v.sort.convert some Number.token).map fun t => String.ofList (t.print textWriter)

/-- How `decode_exact` reads: no key twice. -/
def codesReader : Reader (List ℕ) Number := pyReader.through some Number.ofToken distinct

/-- `decode_exact(data)`, with strings as their code points. -/
def decodeCodes (text : String) : Option (Tree (List ℕ) Number) := codesReader.read text.toList

/-- `decode_exact(data)` for documents without lone surrogates. -/
def decodeEvidence (text : String) : Option Evidence :=
  (decodeCodes text).bind (·.convert text? some)

/-! ## Equality -/

/-- What Python compares a value by if it is a number; booleans are numbers. -/
def Evidence.num? : Evidence → Option ℚ
  | .bool b => some (if b then 1 else 0)
  | .num n => n.value?
  | _ => none

mutual
/-- `a == b` for values whose keys are in order. -/
def Evidence.agree : Evidence → Evidence → Bool
  | .null, .null => true
  | .str a, .str b => a = b
  | .list as, .list bs => Evidence.agreeItems as bs
  | .dict as, .dict bs => Evidence.agreeEntries as bs
  | a, b => a.num?.isSome && a.num? = b.num?
/-- `==` on the items of lists. -/
def Evidence.agreeItems : List Evidence → List Evidence → Bool
  | [], [] => true
  | a :: as, b :: bs => Evidence.agree a b && Evidence.agreeItems as bs
  | _, _ => false
/-- `==` on the entries of dictionaries. -/
def Evidence.agreeEntries : List (String × Evidence) → List (String × Evidence) → Bool
  | [], [] => true
  | (k, a) :: as, (l, b) :: bs => k = l && Evidence.agree a b && Evidence.agreeEntries as bs
  | _, _ => false
end

/-- `a == b` -/
def Evidence.eq (a b : Evidence) : Bool := Evidence.agree a.sort b.sort

end CivicGate.Rq6
