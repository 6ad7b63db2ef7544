import CivicGate.Framework.Json.Text
import CivicGate.Framework.Exceptions
import CivicGate.Framework.Sha256

/-!
# Exact evidence

`rq6/core.py`: the JSON values of the RQ6 artifacts, their exact text and the snapshots that
carry it.  Unlike `Json`, a number that is no integer keeps its literal.

`exact_json` is `Value.exact` and `decode_exact` is `decodeExact`; `ArtifactSnapshot.data` checks
the hash of a snapshot and decodes it afresh.
-/

namespace CivicGate.Rq6

/-! ## Values -/

/-- The token is a JSON number with a fraction or an exponent. -/
def isExactLiteral (token : List Char) : Bool :=
  token.all isNumberChar && (readInt token).isNone && (decimalOf token).isSome

/-- `ExactNumber`: a decimal that keeps the literal it was read from. -/
structure ExactNumber where
  literal : List Char
  isLiteral : isExactLiteral literal = true
  deriving DecidableEq

/-- The number itself. -/
def ExactNumber.value (x : ExactNumber) : ℚ :=
  match decimalOf x.literal with
  | some (true, q) => -q
  | some (false, q) => q
  | none => 0

/-- A value `decode_exact` builds; `dict` lists the insertions that built the dictionary. -/
inductive Value
  | null
  | bool (b : Bool)
  | int (n : ℤ)
  | number (x : ExactNumber)
  | str (s : String)
  | list (xs : List Value)
  | dict (kvs : List (String × Value))

instance : Inhabited Value := ⟨.null⟩

/-- An object: the dictionary a snapshot decodes to. -/
abbrev Object := List (String × Value)

/-- `value.get(key)` -/
def Object.get (o : Object) (key : String) : Value := (o.reverse.lookup key).getD .null

/-- `value[key]`; `none` where Python raises `KeyError`. -/
def Object.get? (o : Object) (key : String) : Option Value := o.reverse.lookup key

/-- The list `[...]` of these texts. -/
def Value.strs (xs : List String) : Value := .list (xs.map .str)

/-- `None` or a text. -/
def Value.optStr : Option String → Value
  | none => .null
  | some s => .str s

/-! ### Equality and truth -/

/-- What Python compares a number by; booleans are numbers. -/
def Value.num? : Value → Option ℚ
  | .bool b => some (if b then 1 else 0)
  | .int n => some n
  | .number x => some x.value
  | _ => none

mutual
/-- `a == b` -/
def Value.eq : Value → Value → Bool
  | .null, .null => true
  | .str a, .str b => a = b
  | .list xs, .list ys => Value.eqItems xs ys
  | .dict xs, .dict ys => xs.length = ys.length && Value.eqEntries xs ys
  | .bool a, b => b.num? = some (if a then 1 else 0)
  | .int n, b => b.num? = some (n : ℚ)
  | .number x, b => b.num? = some x.value
  | _, _ => false
/-- `==` on the items of two lists. -/
def Value.eqItems : List Value → List Value → Bool
  | [], [] => true
  | x :: xs, y :: ys => Value.eq x y && Value.eqItems xs ys
  | _, _ => false
/-- Every entry has an equal one in the other dictionary. -/
def Value.eqEntries : List (String × Value) → List (String × Value) → Bool
  | [], _ => true
  | (k, x) :: xs, ys =>
    (match ys.lookup k with
      | some y => Value.eq x y
      | none => false) && Value.eqEntries xs ys
end

/-- `bool(value)` -/
def Value.truthy : Value → Bool
  | .null => false
  | .bool b => b
  | .int n => n ≠ 0
  | .number x => x.value ≠ 0
  | .str s => s ≠ ""
  | .list xs => xs ≠ []
  | .dict kvs => kvs ≠ []

/-! ## Text -/

/-- Insert a key into a key-ordered dictionary that may already hold a later entry for it. -/
def insertEntry (k : String) (v : Value) : List (String × Value) → List (String × Value)
  | [] => [(k, v)]
  | (l, w) :: rest =>
    if k < l then (k, v) :: (l, w) :: rest
    else if k = l then (l, w) :: rest
    else (l, w) :: insertEntry k v rest

mutual
/-- The value with the keys of every dictionary in order. -/
def Value.sorted : Value → Value
  | .list xs => .list (Value.sortedItems xs)
  | .dict kvs => .dict (Value.sortedEntries kvs)
  | v => v
/-- `Value.sorted` on list items. -/
def Value.sortedItems : List Value → List Value
  | [] => []
  | x :: xs => x.sorted :: Value.sortedItems xs
/-- `Value.sorted` on dictionary entries. -/
def Value.sortedEntries : List (String × Value) → List (String × Value)
  | [] => []
  | (k, v) :: rest => insertEntry k v.sorted (Value.sortedEntries rest)
end

mutual
/-- The text of a value, its dictionaries as they stand. -/
def Value.print : Value → List Char
  | .null => ['n', 'u', 'l', 'l']
  | .bool true => ['t', 'r', 'u', 'e']
  | .bool false => ['f', 'a', 'l', 's', 'e']
  | .int n => printInt n
  | .number x => x.literal
  | .str s => printStr false s
  | .list [] => ['[', ']']
  | .list (x :: xs) => '[' :: (x.print ++ Value.printItems xs)
  | .dict [] => ['\x7b', '\x7d']
  | .dict ((k, v) :: kvs) =>
    '\x7b' :: (printStr false k ++ ':' :: (v.print ++ Value.printEntries kvs))
/-- The rest of a list after an item. -/
def Value.printItems : List Value → List Char
  | [] => [']']
  | x :: xs => ',' :: (x.print ++ Value.printItems xs)
/-- The rest of a dictionary after an entry. -/
def Value.printEntries : List (String × Value) → List Char
  | [] => ['\x7d']
  | (k, v) :: kvs => ',' :: (printStr false k ++ ':' :: (v.print ++ Value.printEntries kvs))
end

/-- `exact_json(value)`, as the text its UTF-8 bytes hold. -/
def Value.exact (v : Value) : String := String.ofList v.sorted.print

/-- The value a number token denotes: an `int` of at most 4300 digits, or the literal itself. -/
def readExact (token : List Char) : Option Value :=
  match readInt token with
  | some n => if n.natAbs < 10 ^ maxDigits then some (.int n) else none
  | none => if h : isExactLiteral token = true then some (.number ⟨token, h⟩) else none

/-- A number and the text after it. -/
def parseExact (cs : List Char) : Option (Value × List Char) :=
  (readExact (cs.takeWhile isNumberChar)).map (·, cs.dropWhile isNumberChar)

/-- `pairs(items)`: a dictionary names no key twice. -/
def uniquePairs (kvs : List (String × Value)) : Option Value :=
  if (kvs.map Prod.fst).Nodup then some (.dict kvs) else none

mutual
/-- A value and the text after it; the fuel bounds the nesting and the items together. -/
def decodeValue : ℕ → List Char → Option (Value × List Char)
  | 0, _ => none
  | fuel + 1, cs =>
    match skipBlanks cs with
    | 'n' :: 'u' :: 'l' :: 'l' :: rest => some (.null, rest)
    | 't' :: 'r' :: 'u' :: 'e' :: rest => some (.bool true, rest)
    | 'f' :: 'a' :: 'l' :: 's' :: 'e' :: rest => some (.bool false, rest)
    | '"' :: rest => (parseStrTail rest).map fun p => (.str (String.ofList p.1), p.2)
    | '[' :: rest =>
      match skipBlanks rest with
      | ']' :: rest => some (.list [], rest)
      | rest =>
        match decodeValue fuel rest with
        | none => none
        | some (x, rest) => (decodeItems fuel rest).map fun p => (.list (x :: p.1), p.2)
    | '\x7b' :: rest =>
      match skipBlanks rest with
      | '\x7d' :: rest => some (.dict [], rest)
      | rest =>
        match decodeEntry fuel rest with
        | none => none
        | some (e, rest) =>
          (decodeEntries fuel rest).bind fun p => (uniquePairs (e :: p.1)).map (·, p.2)
    | cs => parseExact cs
/-- The rest of a list after an item. -/
def decodeItems : ℕ → List Char → Option (List Value × List Char)
  | 0, _ => none
  | fuel + 1, cs =>
    match skipBlanks cs with
    | ']' :: rest => some ([], rest)
    | ',' :: rest =>
      match decodeValue fuel rest with
      | none => none
      | some (x, rest) => (decodeItems fuel rest).map fun p => (x :: p.1, p.2)
    | _ => none
/-- One `"key": value` entry. -/
def decodeEntry : ℕ → List Char → Option ((String × Value) × List Char)
  | 0, _ => none
  | fuel + 1, cs =>
    match skipBlanks cs with
    | '"' :: rest =>
      match parseStrTail rest with
      | none => none
      | some (k, rest) =>
        match skipBlanks rest with
        | ':' :: rest => (decodeValue fuel rest).map fun p => ((String.ofList k, p.1), p.2)
        | _ => none
    | _ => none
/-- The rest of a dictionary after an entry. -/
def decodeEntries : ℕ → List Char → Option (List (String × Value) × List Char)
  | 0, _ => none
  | fuel + 1, cs =>
    match skipBlanks cs with
    | '\x7d' :: rest => some ([], rest)
    | ',' :: rest =>
      match decodeEntry fuel rest with
      | none => none
      | some (e, rest) => (decodeEntries fuel rest).map fun p => (e :: p.1, p.2)
    | _ => none
end

/-- `decode_exact(data)` -/
def decodeExact (text : String) : Option Value :=
  match decodeValue (text.toList.length + 1) text.toList with
  | some (v, rest) => if skipBlanks rest = [] then some v else none
  | none => none

/-! ## Exceptions and snapshots -/

/-- What an RQ6 check raises. -/
inductive Raised
  /-- `RQ6Error(code)` -/
  | rq6 (code : String)
  /-- What `json.loads` raises for a text that is no JSON. -/
  | notJson
  | keyError (key : String)
  | indexError
  | typeError
  | assertionError
  /-- What a verifier raised. -/
  | verifier
  deriving DecidableEq

/-- `require(condition, code)` -/
def require (condition : Bool) (code : String) : Except Raised Unit :=
  ensure condition (.rq6 code)

@[simp] lemma require_eq_ok {condition : Bool} {code : String} {u : Unit} :
    require condition code = .ok u ↔ condition = true := ensure_eq_ok

/-- `value[key]` -/
def Object.item (o : Object) (key : String) : Except Raised Value :=
  (o.get? key).elim (.error (.keyError key)) .ok

/-- Evidence bytes with the hash they are known by; the bytes are given as the text they hold. -/
structure ArtifactSnapshot where
  kind : String
  payload : String
  sha256 : String
  deriving DecidableEq

/-- `ArtifactSnapshot.build(kind, payload)` -/
def ArtifactSnapshot.build (kind : String) (payload : Object) : ArtifactSnapshot :=
  ⟨kind, (Value.dict payload).exact, sha256Hex (Value.dict payload).exact⟩

/-- `snapshot.data()` -/
def ArtifactSnapshot.data (a : ArtifactSnapshot) : Except Raised Object := do
  require (sha256Hex a.payload = a.sha256) "ARTIFACT_HASH_MISMATCH"
  match decodeExact a.payload with
  | none => throw .notJson
  | some (.dict kvs) => return kvs
  | some _ => throw (.rq6 "ARTIFACT_NOT_OBJECT")

end CivicGate.Rq6
