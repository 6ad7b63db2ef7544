import CivicGate.Framework.Json.Text
import Mathlib.Tactic.IntervalCases

/-!
# The canonical text determines the value

`parseText (canonical ascii v) = some v.normalize` for every value (`parseText_canonical`),
under either setting of `ensure_ascii`, and `loads` reads it too when Python can read its
integers (`loads_canonical`).  So two values print alike exactly when they are the
same Python value (`canonical_inj`).

The induction is on the value.  What the parser meets after a value is a comma, a closing
bracket or nothing, never a character that could continue a number (`NoNumberHead`); strings
need no such care, since each escape is read back on its own (`parseStrTail_escapeChar`).
-/

namespace CivicGate

/-! ## Strings -/

lemma hexValue_hexDigit : ∀ n, n < 16 → hexValue (hexDigit n) = some n := by decide

lemma codeUnit_digits {n : ℕ} (h : n < 65536) :
    codeUnit (hexDigit (n / 4096 % 16)) (hexDigit (n / 256 % 16)) (hexDigit (n / 16 % 16))
      (hexDigit (n % 16)) = some n := by
  unfold codeUnit
  rw [hexValue_hexDigit _ (Nat.mod_lt _ (by omega)), hexValue_hexDigit _ (Nat.mod_lt _ (by omega)),
    hexValue_hexDigit _ (Nat.mod_lt _ (by omega)), hexValue_hexDigit _ (Nat.mod_lt _ (by omega))]
  show some (n / 4096 % 16 * 4096 + n / 256 % 16 * 256 + n / 16 % 16 * 16 + n % 16) = some n
  congr 1
  omega

lemma parseStrTail_unicodeEscape {n : ℕ} (h : n < 55296 ∨ 57344 ≤ n ∧ n < 65536)
    (rest : List Char) :
    parseStrTail (unicodeEscape n ++ rest) =
      (parseStrTail rest).map (Prod.map (Char.ofNat n :: ·) id) := by
  have hn : n < 65536 := by omega
  simp only [unicodeEscape, List.cons_append, List.nil_append, parseStrTail]
  rw [codeUnit_digits hn]
  simp only
  rw [if_pos (by omega)]

lemma parseStrTail_surrogates {n : ℕ} (hlo : 65536 ≤ n) (hhi : n < 1114112) (rest : List Char) :
    parseStrTail (unicodeEscape (55296 + (n - 65536) / 1024) ++
        unicodeEscape (56320 + (n - 65536) % 1024) ++ rest) =
      (parseStrTail rest).map (Prod.map (Char.ofNat n :: ·) id) := by
  have hh : 55296 + (n - 65536) / 1024 < 56320 := by omega
  have hl : 56320 + (n - 65536) % 1024 < 57344 := by omega
  have hn : 65536 + (55296 + (n - 65536) / 1024 - 55296) * 1024 +
      (56320 + (n - 65536) % 1024 - 56320) = n := by omega
  simp only [unicodeEscape, List.cons_append, List.nil_append, parseStrTail]
  rw [codeUnit_digits (by omega)]
  simp only
  rw [if_neg (by omega), codeUnit_digits (by omega)]
  simp only
  rw [if_pos (by omega), hn]

/-- Each printed character is read back on its own, whatever follows it. -/
lemma parseStrTail_escapeChar (ascii : Bool) (c : Char) (rest : List Char) :
    parseStrTail (escapeChar ascii c ++ rest) =
      (parseStrTail rest).map (Prod.map (c :: ·) id) := by
  have hvalid : c.toNat < 55296 ∨ 57343 < c.toNat ∧ c.toNat < 1114112 := c.valid
  unfold escapeChar
  split_ifs with hq hb hn hr ht hbs hff hctl hascii hbmp
  all_goals try (subst_vars; simp [parseStrTail, simpleEscape]; done)
  · rw [parseStrTail_unicodeEscape (by omega), Char.ofNat_toNat]
  · rw [parseStrTail_unicodeEscape (by omega), Char.ofNat_toNat]
  · rw [parseStrTail_surrogates (by omega) (by omega), Char.ofNat_toNat]
  · rw [List.cons_append, List.nil_append, parseStrTail.eq_def]
    split <;> simp_all

lemma parseStrTail_printStrTail (ascii : Bool) (rest : List Char) :
    ∀ cs : List Char, parseStrTail (printStrTail ascii cs ++ rest) = some (cs, rest)
  | [] => by simp [printStrTail, parseStrTail]
  | c :: cs => by
      rw [printStrTail, List.append_assoc, parseStrTail_escapeChar,
        parseStrTail_printStrTail ascii rest cs]
      rfl

/-! ## Numbers -/

/-- What follows a value never continues a number. -/
def NoNumberHead (cs : List Char) : Prop := ∀ c, cs.head? = some c → isNumberChar c = false

lemma noNumberHead_nil : NoNumberHead [] := by simp [NoNumberHead]

lemma noNumberHead_cons {c : Char} {cs : List Char} (h : isNumberChar c = false) :
    NoNumberHead (c :: cs) := by
  intro d hd
  rw [List.head?_cons] at hd
  exact Option.some.inj hd ▸ h

lemma takeWhile_number {token rest : List Char} (ht : ∀ c ∈ token, isNumberChar c = true)
    (hr : NoNumberHead rest) : (token ++ rest).takeWhile isNumberChar = token := by
  rw [List.takeWhile_append_of_pos ht]
  cases rest with
  | nil => simp
  | cons c cs => simp [hr c rfl]

lemma dropWhile_number {token rest : List Char} (ht : ∀ c ∈ token, isNumberChar c = true)
    (hr : NoNumberHead rest) : (token ++ rest).dropWhile isNumberChar = rest := by
  rw [List.dropWhile_append_of_pos ht]
  cases rest with
  | nil => simp
  | cons c cs => simp [hr c rfl]

lemma isNumberChar_of_isDigit {c : Char} (h : c.isDigit = true) : isNumberChar c = true := by
  simp [isNumberChar, h]

lemma toDigits_allDigits (n : ℕ) : ∀ c ∈ Nat.toDigits 10 n, c.isDigit = true :=
  fun _ hc => Nat.isDigit_of_mem_toDigits (by decide) (by decide) hc

/-- A decimal never starts with a zero unless it is zero. -/
lemma head?_toDigits_ne_zero {n : ℕ} (h : 0 < n) : (Nat.toDigits 10 n).head? ≠ some '0' := by
  induction n using Nat.strong_induction_on with
  | _ n ih =>
    rw [Nat.toDigits_eq_if (by decide)]
    split_ifs with hlt
    · interval_cases n <;> decide
    · have hdiv := ih (n / 10) (by omega) (by omega)
      cases hd : Nat.toDigits 10 (n / 10) with
      | nil => exact absurd hd Nat.toDigits_ne_nil
      | cons c cs =>
          rw [hd] at hdiv
          simpa using hdiv

lemma isWholePart_toDigits (n : ℕ) : isWholePart (Nat.toDigits 10 n) = true := by
  have hall : (Nat.toDigits 10 n).all Char.isDigit = true :=
    List.all_eq_true.mpr (toDigits_allDigits n)
  rcases Nat.eq_zero_or_pos n with rfl | h
  · decide
  · simp [isWholePart, hall, head?_toDigits_ne_zero h, Nat.toDigits_ne_nil]

lemma natOfDigits_toDigits (n : ℕ) : natOfDigits (Nat.toDigits 10 n) = n :=
  Nat.ofDigitChars_ten_toDigits

lemma natOfDigits_zeros_append (n : ℕ) (ds : List Char) :
    natOfDigits (List.replicate n '0' ++ ds) = natOfDigits ds := by
  rw [natOfDigits, Nat.ofDigitChars_append, Nat.ofDigitChars_replicate_zero, Nat.mul_zero,
    natOfDigits]

lemma toDigits_ne_minus (n : ℕ) (ds : List Char) : Nat.toDigits 10 n ≠ '-' :: ds := by
  intro h
  have := toDigits_allDigits n '-' (by rw [h]; exact List.mem_cons_self ..)
  exact absurd this (by decide)

lemma readInt_printInt (n : ℤ) : readInt (printInt n) = some n := by
  cases n with
  | ofNat n =>
      rw [printInt, readInt.eq_def]
      split
      · rename_i ds h
        exact absurd h (toDigits_ne_minus n ds)
      · rw [if_pos (isWholePart_toDigits n), natOfDigits_toDigits]
        rfl
  | negSucc n =>
      rw [printInt, readInt, if_pos (isWholePart_toDigits _), natOfDigits_toDigits]
      rfl

lemma printInt_numberChars (n : ℤ) : ∀ c ∈ printInt n, isNumberChar c = true := by
  intro c hc
  cases n with
  | ofNat n => exact isNumberChar_of_isDigit (toDigits_allDigits n c hc)
  | negSucc n =>
      rcases List.mem_cons.mp hc with rfl | hc
      · decide
      · exact isNumberChar_of_isDigit (toDigits_allDigits _ c hc)

lemma PyFloat.readInt_text (x : PyFloat) : readInt x.text = none := by
  -- A point or an exponent mark is no digit, so neither spelling of an integer matches.
  obtain ⟨c, hc, hmark⟩ := x.exists_mark
  have hdigit : c.isDigit = false ∧ c ≠ '-' := by
    rcases hmark with rfl | rfl <;> decide
  have hwhole : ∀ ds : List Char, c ∈ ds → isWholePart ds = false := by
    intro ds hmem
    have : ds.all Char.isDigit = false :=
      List.all_eq_false.mpr ⟨c, hmem, by simp [hdigit.1]⟩
    simp [isWholePart, this]
  rw [readInt.eq_def]
  split
  · rename_i ds hds
    rw [hds] at hc
    rcases List.mem_cons.mp hc with rfl | hc
    · exact absurd rfl hdigit.2
    · simp [hwhole ds hc]
  · simp [hwhole _ hc]

lemma parseNumber_token {token rest : List Char} {v : Json}
    (ht : ∀ c ∈ token, isNumberChar c = true) (hr : NoNumberHead rest)
    (hv : readNumber token = some v) : parseNumber (token ++ rest) = some (v, rest) := by
  rw [parseNumber, takeWhile_number ht hr, dropWhile_number ht hr, hv]
  rfl

/-- A number's first character is neither a blank nor the start of another kind of value. -/
lemma parseValue_number {token rest : List Char} {v : Json} {fuel : ℕ}
    (ht : ∀ c ∈ token, isNumberChar c = true) (hne : token ≠ []) (hr : NoNumberHead rest)
    (hv : readNumber token = some v) : parseValue (fuel + 1) (token ++ rest) = some (v, rest) := by
  have hparse := parseNumber_token ht hr hv
  obtain ⟨c, cs, rfl⟩ := List.exists_cons_of_ne_nil hne
  have hc : isNumberChar c = true := ht c (List.mem_cons_self ..)
  have hblank : ¬ (c = ' ' ∨ c = '\n' ∨ c = '\r' ∨ c = '\t') := by
    rintro (rfl | rfl | rfl | rfl) <;> exact absurd hc (by decide)
  rw [parseValue, List.cons_append, skipBlanks, if_neg hblank, ← List.cons_append]
  rw [List.cons_append] at hparse ⊢
  split
  all_goals first
    | exact hparse
    | (rename_i heq; rw [(List.cons_eq_cons.mp heq).1] at hc; exact absurd hc (by decide))

/-! ## Values -/

mutual
/-- The fuel a value needs. -/
def Json.weight : Json → ℕ
  | .list (x :: xs) => 1 + x.weight + Json.weightItems xs
  | .dict ((_, v) :: kvs) => 2 + v.weight + Json.weightEntries kvs
  | _ => 1
/-- The fuel the rest of a list needs. -/
def Json.weightItems : List Json → ℕ
  | [] => 1
  | x :: xs => 1 + x.weight + Json.weightItems xs
/-- The fuel the rest of a dictionary needs. -/
def Json.weightEntries : List (String × Json) → ℕ
  | [] => 1
  | (_, v) :: kvs => 2 + v.weight + Json.weightEntries kvs
end

lemma printItems_noNumberHead (ascii : Bool) (xs : List Json) (rest : List Char) :
    NoNumberHead (Json.printItems ascii xs ++ rest) := by
  cases xs <;> exact noNumberHead_cons (by decide)

lemma printEntries_noNumberHead (ascii : Bool) (kvs : List (String × Json)) (rest : List Char) :
    NoNumberHead (Json.printEntries ascii kvs ++ rest) := by
  rcases kvs with _ | ⟨⟨k, v⟩, kvs⟩ <;> exact noNumberHead_cons (by decide)

lemma printInt_ne_nil (n : ℤ) : printInt n ≠ [] := by
  cases n <;> simp [printInt, Nat.toDigits_ne_nil]

lemma PyFloat.text_ne_nil (x : PyFloat) : x.text ≠ [] := by
  obtain ⟨c, hc, -⟩ := x.exists_mark
  exact List.ne_nil_of_mem hc

/-- No printed value starts with a blank or a closing bracket. -/
lemma print_head (ascii : Bool) (v : Json) :
    ∃ c cs, v.print ascii = c :: cs ∧ c ≠ ']' ∧ skipBlanks (c :: cs) = c :: cs := by
  have hnumber : ∀ token : List Char, token ≠ [] → (∀ c ∈ token, isNumberChar c = true) →
      ∃ c cs, token = c :: cs ∧ c ≠ ']' ∧ skipBlanks (c :: cs) = c :: cs := by
    intro token hne ht
    obtain ⟨c, cs, rfl⟩ := List.exists_cons_of_ne_nil hne
    have hc := ht c (List.mem_cons_self ..)
    refine ⟨c, cs, rfl, ?_, ?_⟩
    · rintro rfl
      exact absurd hc (by decide)
    · rw [skipBlanks, if_neg]
      rintro (rfl | rfl | rfl | rfl) <;> exact absurd hc (by decide)
  match v with
  | .null => exact ⟨_, _, rfl, by decide, rfl⟩
  | .bool true => exact ⟨_, _, rfl, by decide, rfl⟩
  | .bool false => exact ⟨_, _, rfl, by decide, rfl⟩
  | .int n => rw [Json.print]; exact hnumber _ (printInt_ne_nil n) (printInt_numberChars n)
  | .float x => rw [Json.print]; exact hnumber _ x.text_ne_nil x.numberChars
  | .str s => exact ⟨_, _, by rw [Json.print, printStr], by decide, rfl⟩
  | .list [] => exact ⟨_, _, by rw [Json.print], by decide, rfl⟩
  | .list (x :: xs) => exact ⟨_, _, by rw [Json.print], by decide, rfl⟩
  | .dict [] => exact ⟨_, _, by rw [Json.print], by decide, rfl⟩
  | .dict ((k, v) :: kvs) => exact ⟨_, _, by rw [Json.print], by decide, rfl⟩


/-- Skipping blanks leaves nothing that starts with a blank. -/
lemma skipBlanks_ne_cons {c : Char} (hc : c = ' ' ∨ c = '\n' ∨ c = '\r' ∨ c = '\t') :
    ∀ cs ds : List Char, skipBlanks cs ≠ c :: ds
  | [], _ => by simp [skipBlanks]
  | d :: cs, ds => by
      rw [skipBlanks]
      split_ifs with hd
      · exact skipBlanks_ne_cons hc cs ds
      · rintro heq
        exact hd ((List.cons_eq_cons.mp heq).1 ▸ hc)

lemma skipBlanks_append {c : Char} {cs : List Char} (h : skipBlanks (c :: cs) = c :: cs)
    (rest : List Char) : skipBlanks (c :: cs ++ rest) = c :: cs ++ rest := by
  have hblank : ¬ (c = ' ' ∨ c = '\n' ∨ c = '\r' ∨ c = '\t') := by
    intro hblank
    rw [skipBlanks, if_pos hblank] at h
    rcases hblank with rfl | rfl | rfl | rfl <;> exact skipBlanks_ne_cons (by decide) cs _ h
  rw [List.cons_append, skipBlanks, if_neg hblank]

lemma Json.weight_pos (v : Json) : 0 < v.weight := by
  unfold Json.weight
  split <;> omega

lemma Json.weightItems_pos (xs : List Json) : 0 < Json.weightItems xs := by
  cases xs <;> simp only [Json.weightItems] <;> omega

mutual
/-- A printed value is read back, given the fuel it needs, whatever ends it. -/
lemma parseValue_print (ascii : Bool) : ∀ (v : Json) (fuel : ℕ) (rest : List Char),
    v.weight ≤ fuel + 1 → NoNumberHead rest →
    parseValue (fuel + 1) (v.print ascii ++ rest) = some (v, rest)
  | .null, fuel, rest, _, _ => by simp [Json.print, parseValue, skipBlanks]
  | .bool true, fuel, rest, _, _ => by simp [Json.print, parseValue, skipBlanks]
  | .bool false, fuel, rest, _, _ => by simp [Json.print, parseValue, skipBlanks]
  | .int n, fuel, rest, _, hr => by
      rw [Json.print]
      exact parseValue_number (printInt_numberChars n) (printInt_ne_nil n) hr
        (by rw [readNumber, readInt_printInt])
  | .float x, fuel, rest, _, hr => by
      rw [Json.print]
      exact parseValue_number x.numberChars x.text_ne_nil hr
        (by rw [readNumber, x.readInt_text, x.read_text]; rfl)
  | .str s, fuel, rest, _, _ => by
      simp [Json.print, printStr, parseValue, skipBlanks, parseStrTail_printStrTail]
  | .list [], fuel, rest, _, _ => by simp [Json.print, parseValue, skipBlanks]
  | .list (x :: xs), fuel, rest, hw, hr => by
      have hpos := x.weight_pos
      have hpos' := Json.weightItems_pos xs
      rw [Json.weight] at hw
      obtain ⟨fuel, rfl⟩ : ∃ n, fuel = n + 1 := ⟨fuel - 1, by omega⟩
      have hx := parseValue_print ascii x fuel (Json.printItems ascii xs ++ rest) (by omega)
        (printItems_noNumberHead ascii xs rest)
      have hxs := parseItems_print ascii xs fuel rest (by omega)
      obtain ⟨c, cs, hprint, hc, hskip⟩ := print_head ascii x
      rw [hprint] at hx
      rw [Json.print, hprint, List.cons_append, parseValue, skipBlanks, if_neg (by decide)]
      simp only [List.append_assoc]
      rw [skipBlanks_append hskip]
      split
      · rename_i heq
        exact absurd (List.cons_eq_cons.mp heq).1 hc
      · rw [hx]
        simp only [hxs, Option.map_some]
  | .dict [], fuel, rest, _, _ => by simp [Json.print, parseValue, skipBlanks]
  | .dict ((k, v) :: kvs), fuel, rest, hw, hr => by
      have hpos := v.weight_pos
      rw [Json.weight] at hw
      obtain ⟨fuel, rfl⟩ : ∃ n, fuel = n + 1 := ⟨fuel - 1, by omega⟩
      have hv := parseEntry_print ascii k v fuel (Json.printEntries ascii kvs ++ rest) (by omega)
        (printEntries_noNumberHead ascii kvs rest)
      have hkvs := parseEntries_print ascii kvs fuel rest (by omega)
      rw [Json.print, List.cons_append, parseValue, skipBlanks, if_neg (by decide)]
      simp only [List.append_assoc, List.cons_append] at hv ⊢
      rw [printStr, List.cons_append, skipBlanks, if_neg (by decide)]
      rw [printStr, List.cons_append] at hv
      split
      · rename_i heq
        exact absurd (List.cons_eq_cons.mp heq).1 (by decide)
      · rw [hv]
        simp only [hkvs, Option.map_some]
/-- The rest of a printed list is read back. -/
lemma parseItems_print (ascii : Bool) : ∀ (xs : List Json) (fuel : ℕ) (rest : List Char),
    Json.weightItems xs ≤ fuel + 1 →
    parseItems (fuel + 1) (Json.printItems ascii xs ++ rest) = some (xs, rest)
  | [], fuel, rest, _ => by simp [Json.printItems, parseItems, skipBlanks]
  | x :: xs, fuel, rest, hw => by
      have hpos := x.weight_pos
      rw [Json.weightItems] at hw
      obtain ⟨fuel, rfl⟩ : ∃ n, fuel = n + 1 := ⟨fuel - 1, by omega⟩
      have hx := parseValue_print ascii x fuel (Json.printItems ascii xs ++ rest) (by omega)
        (printItems_noNumberHead ascii xs rest)
      have hxs := parseItems_print ascii xs fuel rest (by omega)
      rw [Json.printItems, List.cons_append, parseItems, skipBlanks, if_neg (by decide)]
      simp only [List.append_assoc, hx, hxs, Option.map_some]
/-- A printed entry is read back. -/
lemma parseEntry_print (ascii : Bool) : ∀ (k : String) (v : Json) (fuel : ℕ) (rest : List Char),
    v.weight ≤ fuel → NoNumberHead rest →
    parseEntry (fuel + 1) (printStr ascii k ++ ':' :: (v.print ascii ++ rest)) =
      some ((k, v), rest)
  | k, v, fuel, rest, hw, hr => by
      have hpos := v.weight_pos
      obtain ⟨fuel, rfl⟩ : ∃ n, fuel = n + 1 := ⟨fuel - 1, by omega⟩
      have hv := parseValue_print ascii v fuel rest hw hr
      simp [printStr, parseEntry, skipBlanks, parseStrTail_printStrTail, hv]
/-- The rest of a printed dictionary is read back. -/
lemma parseEntries_print (ascii : Bool) : ∀ (kvs : List (String × Json)) (fuel : ℕ)
    (rest : List Char), Json.weightEntries kvs ≤ fuel + 1 →
    parseEntries (fuel + 1) (Json.printEntries ascii kvs ++ rest) = some (kvs, rest)
  | [], fuel, rest, _ => by simp [Json.printEntries, parseEntries, skipBlanks]
  | (k, v) :: kvs, fuel, rest, hw => by
      have hpos := v.weight_pos
      rw [Json.weightEntries] at hw
      obtain ⟨fuel, rfl⟩ : ∃ n, fuel = n + 1 := ⟨fuel - 1, by omega⟩
      have hv := parseEntry_print ascii k v fuel (Json.printEntries ascii kvs ++ rest) (by omega)
        (printEntries_noNumberHead ascii kvs rest)
      have hkvs := parseEntries_print ascii kvs fuel rest (by omega)
      rw [Json.printEntries, List.cons_append, parseEntries, skipBlanks, if_neg (by decide)]
      simp only [List.append_assoc, List.cons_append, hv, hkvs, Option.map_some]
end

/-! ## Fuel -/

mutual
lemma Json.weight_le_length (ascii : Bool) : ∀ v : Json, v.weight ≤ (v.print ascii).length
  | .null => by simp [Json.weight, Json.print]
  | .bool true => by simp [Json.weight, Json.print]
  | .bool false => by simp [Json.weight, Json.print]
  | .int n => by
      rw [Json.weight, Json.print]
      · exact List.length_pos_iff.mpr (printInt_ne_nil n)
      all_goals simp
  | .float x => by
      rw [Json.weight, Json.print]
      · exact List.length_pos_iff.mpr x.text_ne_nil
      all_goals simp
  | .str s => by simp [Json.weight, Json.print, printStr]
  | .list [] => by simp [Json.weight, Json.print]
  | .list (x :: xs) => by
      have hx := Json.weight_le_length ascii x
      have hxs := Json.weightItems_le_length ascii xs
      simp only [Json.weight, Json.print, List.length_cons, List.length_append]
      omega
  | .dict [] => by simp [Json.weight, Json.print]
  | .dict ((k, v) :: kvs) => by
      have hv := Json.weight_le_length ascii v
      have hkvs := Json.weightEntries_le_length ascii kvs
      simp only [Json.weight, Json.print, printStr, List.length_cons, List.length_append]
      omega
lemma Json.weightItems_le_length (ascii : Bool) : ∀ xs : List Json,
    Json.weightItems xs ≤ (Json.printItems ascii xs).length
  | [] => by simp [Json.weightItems, Json.printItems]
  | x :: xs => by
      have hx := Json.weight_le_length ascii x
      have hxs := Json.weightItems_le_length ascii xs
      simp only [Json.weightItems, Json.printItems, List.length_cons, List.length_append]
      omega
lemma Json.weightEntries_le_length (ascii : Bool) : ∀ kvs : List (String × Json),
    Json.weightEntries kvs ≤ (Json.printEntries ascii kvs).length
  | [] => by simp [Json.weightEntries, Json.printEntries]
  | (k, v) :: kvs => by
      have hv := Json.weight_le_length ascii v
      have hkvs := Json.weightEntries_le_length ascii kvs
      simp only [Json.weightEntries, Json.printEntries, printStr, List.length_cons,
        List.length_append]
      omega
end

/-! ## The law -/

/-- The canonical text of a value holds the value. -/
theorem parseText_canonical (ascii : Bool) (v : Json) :
    parseText (canonical ascii v) = some v.normalize := by
  have hw := v.normalize.weight_le_length ascii
  have hparse := parseValue_print ascii v.normalize (v.normalize.print ascii).length []
    (by omega) noNumberHead_nil
  rw [List.append_nil] at hparse
  simp [parseText, canonical, hparse, skipBlanks]

/-- Reading the canonical text of a value gives the value back. -/
theorem loads_canonical {ascii : Bool} {v : Json} (h : v.normalize.withinDigits = true) :
    loads (canonical ascii v) = some v.normalize := by
  rw [loads, parseText_canonical]
  simp only [h, if_true, Json.normalize_normalize]

/-- A canonical text holds nothing but its value. -/
lemma eq_of_loads_canonical {ascii : Bool} {v w : Json} (h : loads (canonical ascii v) = some w) :
    w = v.normalize := by
  rw [loads, parseText_canonical] at h
  simp only [Json.normalize_normalize] at h
  split at h
  · exact (Option.some.inj h).symm
  · cases h

lemma canonical_normalize (ascii : Bool) (v : Json) :
    canonical ascii v.normalize = canonical ascii v := by
  rw [canonical, Json.normalize_normalize, canonical]

/-- Two values print alike exactly when they are the same Python value. -/
theorem canonical_inj {ascii : Bool} {v w : Json} :
    canonical ascii v = canonical ascii w ↔ v.normalize = w.normalize := by
  constructor
  · intro h
    have hv := parseText_canonical ascii v
    rw [h, parseText_canonical] at hv
    exact (Option.some.inj hv).symm
  · intro h
    rw [canonical, h, canonical]

end CivicGate
