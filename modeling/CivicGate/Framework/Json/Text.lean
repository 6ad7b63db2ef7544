import CivicGate.Framework.Json.Value

/-!
# JSON text

`canonical` is `json.dumps(value, sort_keys=True, separators=(",", ":"), allow_nan=False)`,
with `ensure_ascii` as its first argument, and `loads` is `json.loads`.

The printer writes a normalized value: keys in order, no blanks, `repr` for floats.  The
parser is the JSON grammar of `json.loads`, blanks and every escape included.  What it does
not read are the extensions `json.loads` also takes (`NaN`, the infinities, a lone surrogate
escape): these are no JSON values here, and `canonical` refuses to print the first two.
-/

namespace CivicGate

/-! ## Printing -/

/-- The lowercase hexadecimal digit of a number below sixteen. -/
def hexDigit (n : ℕ) : Char := Nat.digitChar n

/-- `\uXXXX` for a code unit. -/
def unicodeEscape (n : ℕ) : List Char :=
  ['\\', 'u', hexDigit (n / 4096 % 16), hexDigit (n / 256 % 16), hexDigit (n / 16 % 16),
    hexDigit (n % 16)]

/-- One character inside a JSON string, under either setting of `ensure_ascii`. -/
def escapeChar (ascii : Bool) (c : Char) : List Char :=
  if c = '"' then ['\\', '"']
  else if c = '\\' then ['\\', '\\']
  else if c = '\n' then ['\\', 'n']
  else if c = '\r' then ['\\', 'r']
  else if c = '\t' then ['\\', 't']
  else if c = '\x08' then ['\\', 'b']
  else if c = '\x0c' then ['\\', 'f']
  else if c.toNat < 32 then unicodeEscape c.toNat
  else if ascii && 127 ≤ c.toNat then
    if c.toNat < 65536 then unicodeEscape c.toNat
    else unicodeEscape (55296 + (c.toNat - 65536) / 1024) ++
      unicodeEscape (56320 + (c.toNat - 65536) % 1024)
  else [c]

/-- The characters of a JSON string after its opening quote, the closing quote included. -/
def printStrTail (ascii : Bool) : List Char → List Char
  | [] => ['"']
  | c :: cs => escapeChar ascii c ++ printStrTail ascii cs

/-- A JSON string. -/
def printStr (ascii : Bool) (s : String) : List Char := '"' :: printStrTail ascii s.toList

/-- The decimal digits of an integer, signed. -/
def printInt : ℤ → List Char
  | .ofNat n => Nat.toDigits 10 n
  | .negSucc n => '-' :: Nat.toDigits 10 (n + 1)

mutual
/-- The text of a value, its dictionaries in the order given. -/
def Json.print (ascii : Bool) : Json → List Char
  | .null => ['n', 'u', 'l', 'l']
  | .bool true => ['t', 'r', 'u', 'e']
  | .bool false => ['f', 'a', 'l', 's', 'e']
  | .int n => printInt n
  | .float x => x.text
  | .str s => printStr ascii s
  | .list [] => ['[', ']']
  | .list (x :: xs) => '[' :: (Json.print ascii x ++ Json.printItems ascii xs)
  | .dict [] => ['{', '}']
  | .dict ((k, v) :: kvs) =>
    '{' :: (printStr ascii k ++ ':' :: (Json.print ascii v ++ Json.printEntries ascii kvs))
/-- The rest of a list after an item, the closing bracket included. -/
def Json.printItems (ascii : Bool) : List Json → List Char
  | [] => [']']
  | x :: xs => ',' :: (Json.print ascii x ++ Json.printItems ascii xs)
/-- The rest of a dictionary after an entry, the closing brace included. -/
def Json.printEntries (ascii : Bool) : List (String × Json) → List Char
  | [] => ['}']
  | (k, v) :: kvs =>
    ',' :: (printStr ascii k ++ ':' :: (Json.print ascii v ++ Json.printEntries ascii kvs))
end

/-- `json.dumps` with sorted keys and compact separators. -/
def canonical (ascii : Bool) (v : Json) : String := String.ofList (v.normalize.print ascii)

/-! ## Parsing -/

/-- Drop the blanks JSON allows between tokens. -/
def skipBlanks : List Char → List Char
  | [] => []
  | c :: cs => if c = ' ' ∨ c = '\n' ∨ c = '\r' ∨ c = '\t' then skipBlanks cs else c :: cs

/-- The value of a hexadecimal digit of either case. -/
def hexValue (c : Char) : Option ℕ :=
  if c.isDigit then some (c.toNat - 48)
  else if 'a' ≤ c ∧ c ≤ 'f' then some (c.toNat - 87)
  else if 'A' ≤ c ∧ c ≤ 'F' then some (c.toNat - 55)
  else none

/-- The code unit four hexadecimal digits denote. -/
def codeUnit (a b c d : Char) : Option ℕ := do
  let a ← hexValue a
  let b ← hexValue b
  let c ← hexValue c
  let d ← hexValue d
  return a * 4096 + b * 256 + c * 16 + d

/-- The character a one-letter escape denotes. -/
def simpleEscape (c : Char) : Option Char :=
  if c = '"' ∨ c = '\\' ∨ c = '/' then some c
  else if c = 'n' then some '\n'
  else if c = 'r' then some '\r'
  else if c = 't' then some '\t'
  else if c = 'b' then some '\x08'
  else if c = 'f' then some '\x0c'
  else none

/-- The characters of a JSON string up to its closing quote, and the text after it. -/
def parseStrTail : List Char → Option (List Char × List Char)
  | [] => none
  | '"' :: rest => some ([], rest)
  | '\\' :: 'u' :: a :: b :: c :: d :: rest =>
    match codeUnit a b c d with
    | none => none
    | some n =>
      if n < 55296 ∨ 57344 ≤ n then (parseStrTail rest).map (Prod.map (Char.ofNat n :: ·) id)
      else match rest with
        | '\\' :: 'u' :: a' :: b' :: c' :: d' :: rest' =>
          match codeUnit a' b' c' d' with
          | none => none
          | some m =>
            if n < 56320 ∧ 56320 ≤ m ∧ m < 57344 then
              (parseStrTail rest').map
                (Prod.map (Char.ofNat (65536 + (n - 55296) * 1024 + (m - 56320)) :: ·) id)
            else none
        | _ => none
  | '\\' :: c :: rest =>
    match simpleEscape c with
    | none => none
    | some c => (parseStrTail rest).map (Prod.map (c :: ·) id)
  | c :: rest => if c.toNat < 32 then none else (parseStrTail rest).map (Prod.map (c :: ·) id)

/-- One code point more at the front. -/
def consCode (n : ℕ) (p : List ℕ × List Char) : List ℕ × List Char := (n :: p.1, p.2)

/-- The code points of a Python string up to its closing quote, and the text after it. -/
def scanString : List Char → Option (List ℕ × List Char)
  | [] => none
  | '"' :: rest => some ([], rest)
  | '\\' :: 'u' :: a :: b :: c :: d :: rest =>
    match codeUnit a b c d with
    | none => none
    | some n =>
      if n < 55296 ∨ 56320 ≤ n then (scanString rest).map (consCode n)
      else match rest with
        | '\\' :: 'u' :: a' :: b' :: c' :: d' :: rest' =>
          match codeUnit a' b' c' d' with
          | none => none
          | some m =>
            if 56320 ≤ m ∧ m < 57344 then
              (scanString rest').map (consCode (65536 + (n - 55296) * 1024 + (m - 56320)))
            else (scanString ('\\' :: 'u' :: a' :: b' :: c' :: d' :: rest')).map (consCode n)
        | rest => (scanString rest).map (consCode n)
  | '\\' :: c :: rest =>
    match simpleEscape c with
    | none => none
    | some c => (scanString rest).map (consCode c.toNat)
  | c :: rest => if c.toNat < 32 then none else (scanString rest).map (consCode c.toNat)

/-- The integer a number token denotes, if it has no fraction and no exponent. -/
def readInt : List Char → Option ℤ
  | '-' :: ds => if isWholePart ds then some (-(natOfDigits ds : ℤ)) else none
  | ds => if isWholePart ds then some (natOfDigits ds : ℤ) else none

/-- The value a number token denotes. -/
def readNumber (token : List Char) : Option Json :=
  match readInt token with
  | some n => some (.int n)
  | none => (PyFloat.read token).map .float

/-- A number and the text after it. -/
def parseNumber (cs : List Char) : Option (Json × List Char) :=
  (readNumber (cs.takeWhile isNumberChar)).map (·, cs.dropWhile isNumberChar)

mutual
/-- A value and the text after it; the fuel bounds the nesting and the items together. -/
def parseValue : ℕ → List Char → Option (Json × List Char)
  | 0, _ => none
  | fuel + 1, cs =>
    match skipBlanks cs with
    | 'n' :: 'u' :: 'l' :: 'l' :: rest => some (.null, rest)
    | 't' :: 'r' :: 'u' :: 'e' :: rest => some (.bool true, rest)
    | 'f' :: 'a' :: 'l' :: 's' :: 'e' :: rest => some (.bool false, rest)
    | '"' :: rest => (parseStrTail rest).map fun p => (.str (String.ofList p.1), p.2)
    | '[' :: rest =>
      match skipBlanks rest with
      | ']' :: rest => some (.list [], rest)
      | rest =>
        match parseValue fuel rest with
        | none => none
        | some (x, rest) => (parseItems fuel rest).map fun p => (.list (x :: p.1), p.2)
    | '{' :: rest =>
      match skipBlanks rest with
      | '}' :: rest => some (.dict [], rest)
      | rest =>
        match parseEntry fuel rest with
        | none => none
        | some (e, rest) => (parseEntries fuel rest).map fun p => (.dict (e :: p.1), p.2)
    | cs => parseNumber cs
/-- The rest of a list after an item. -/
def parseItems : ℕ → List Char → Option (List Json × List Char)
  | 0, _ => none
  | fuel + 1, cs =>
    match skipBlanks cs with
    | ']' :: rest => some ([], rest)
    | ',' :: rest =>
      match parseValue fuel rest with
      | none => none
      | some (x, rest) => (parseItems fuel rest).map fun p => (x :: p.1, p.2)
    | _ => none
/-- One `"key": value` entry. -/
def parseEntry : ℕ → List Char → Option ((String × Json) × List Char)
  | 0, _ => none
  | fuel + 1, cs =>
    match skipBlanks cs with
    | '"' :: rest =>
      match parseStrTail rest with
      | none => none
      | some (k, rest) =>
        match skipBlanks rest with
        | ':' :: rest => (parseValue fuel rest).map fun p => ((String.ofList k, p.1), p.2)
        | _ => none
    | _ => none
/-- The rest of a dictionary after an entry. -/
def parseEntries : ℕ → List Char → Option (List (String × Json) × List Char)
  | 0, _ => none
  | fuel + 1, cs =>
    match skipBlanks cs with
    | '}' :: rest => some ([], rest)
    | ',' :: rest =>
      match parseEntry fuel rest with
      | none => none
      | some (e, rest) => (parseEntries fuel rest).map fun p => (e :: p.1, p.2)
    | _ => none
end

/-- The value a text holds, with nothing but blanks after it. -/
def parseText (text : String) : Option Json :=
  match parseValue (text.toList.length + 1) text.toList with
  | some (v, rest) => if skipBlanks rest = [] then some v else none
  | none => none

/-- The digits an integer may have for Python to read it. -/
def maxDigits : ℕ := 4300

/-- Python reads the digits of the integer. -/
@[irreducible] def readableInt (n : ℤ) : Bool := n.natAbs < 10 ^ maxDigits

lemma readableInt_iff {n : ℤ} : readableInt n = true ↔ n.natAbs < 10 ^ maxDigits := by
  unfold readableInt
  exact decide_eq_true_iff

mutual
/-- No integer of the value has more digits than Python reads. -/
def Json.withinDigits : Json → Bool
  | .int n => n.natAbs < 10 ^ maxDigits
  | .list xs => Json.withinDigitsItems xs
  | .dict kvs => Json.withinDigitsEntries kvs
  | _ => true
/-- `Json.withinDigits` on list items. -/
def Json.withinDigitsItems : List Json → Bool
  | [] => true
  | x :: xs => x.withinDigits && Json.withinDigitsItems xs
/-- `Json.withinDigits` on dictionary entries. -/
def Json.withinDigitsEntries : List (String × Json) → Bool
  | [] => true
  | (_, v) :: kvs => v.withinDigits && Json.withinDigitsEntries kvs
end

/-- `json.loads` -/
def loads (text : String) : Option Json :=
  match parseText text with
  | some v => if v.withinDigits then some v.normalize else none
  | none => none

example : canonical true (.dict [("b", .list [.int (-3), .null]), ("a", .str "é\n")]) =
    "\x7b\"a\":\"\\u00e9\\n\",\"b\":[-3,null]\x7d" := by decide +kernel

example : loads " \x7b\"b\" : [1.5, true], \"a\":\"\\ud83d\\ude00\", \"b\":0\x7d " =
    some (.dict [("a", .str "😀"), ("b", .int 0)]) := by decide +kernel

end CivicGate
