import CivicGate.Framework.Digest
import CivicGate.Framework.Json.RoundTrip
import CivicGate.Rq6.Core

/-!
# The exact text determines the value

`decodeExact v.exact = some v.sorted` for every value whose dictionaries name no key twice and
whose integers Python can read (`decodeExact_exact`).  So a snapshot that was built holds the
payload it was built from (`data_build`), and its digest is that of the bytes of the payload
(`sha256_build`).
-/

namespace CivicGate.Rq6

mutual
/-- What `decode_exact` takes: integers within Python's digits, and no key twice. -/
def Value.readable : Value → Bool
  | .int n => readableInt n
  | .list xs => Value.readableItems xs
  | .dict kvs => (kvs.map Prod.fst).Nodup && Value.readableEntries kvs
  | _ => true
/-- `Value.readable` on list items. -/
def Value.readableItems : List Value → Bool
  | [] => true
  | x :: xs => x.readable && Value.readableItems xs
/-- `Value.readable` on dictionary entries. -/
def Value.readableEntries : List (String × Value) → Bool
  | [] => true
  | (_, v) :: kvs => v.readable && Value.readableEntries kvs
end

mutual
/-- The fuel a value needs. -/
def Value.weight : Value → ℕ
  | .list (x :: xs) => 1 + x.weight + Value.weightItems xs
  | .dict ((_, v) :: kvs) => 2 + v.weight + Value.weightEntries kvs
  | _ => 1
/-- The fuel the rest of a list needs. -/
def Value.weightItems : List Value → ℕ
  | [] => 1
  | x :: xs => 1 + x.weight + Value.weightItems xs
/-- The fuel the rest of a dictionary needs. -/
def Value.weightEntries : List (String × Value) → ℕ
  | [] => 1
  | (_, v) :: kvs => 2 + v.weight + Value.weightEntries kvs
end

lemma Value.weight_pos (v : Value) : 0 < v.weight := by
  unfold Value.weight
  split <;> omega

lemma Value.weightItems_pos (xs : List Value) : 0 < Value.weightItems xs := by
  cases xs <;> simp only [Value.weightItems] <;> omega

/-! ## Numbers -/

lemma ExactNumber.numberChars (x : ExactNumber) : ∀ c ∈ x.literal, isNumberChar c = true := by
  have h := x.isLiteral
  simp only [isExactLiteral, Bool.and_eq_true] at h
  exact List.all_eq_true.mp h.1.1

lemma ExactNumber.readInt_literal (x : ExactNumber) : readInt x.literal = none := by
  have h := x.isLiteral
  simp only [isExactLiteral, Bool.and_eq_true] at h
  exact Option.isNone_iff_eq_none.mp h.1.2

lemma ExactNumber.literal_ne_nil (x : ExactNumber) : x.literal ≠ [] := by
  intro hnil
  have h := x.isLiteral
  rw [hnil] at h
  exact absurd h (by decide)

lemma readExact_int {n : ℤ} (h : (Value.int n).readable = true) :
    readExact (printInt n) = some (.int n) := by
  rw [Value.readable, readableInt_iff] at h
  unfold readExact
  rw [readInt_printInt]
  exact if_pos h

lemma readExact_number (x : ExactNumber) : readExact x.literal = some (.number x) := by
  rw [readExact, x.readInt_literal]
  exact dif_pos x.isLiteral

lemma decodeValue_number {token rest : List Char} {v : Value} {fuel : ℕ}
    (ht : ∀ c ∈ token, isNumberChar c = true) (hne : token ≠ []) (hr : NoNumberHead rest)
    (hv : readExact token = some v) :
    decodeValue (fuel + 1) (token ++ rest) = some (v, rest) := by
  have hparse : parseExact (token ++ rest) = some (v, rest) := by
    rw [parseExact, takeWhile_number ht hr, dropWhile_number ht hr, hv]
    rfl
  obtain ⟨c, cs, rfl⟩ := List.exists_cons_of_ne_nil hne
  have hc : isNumberChar c = true := ht c (List.mem_cons_self ..)
  have hskip : skipBlanks (c :: cs ++ rest) = c :: cs ++ rest := by
    rw [List.cons_append, skipBlanks, if_neg]
    rintro (rfl | rfl | rfl | rfl) <;> exact absurd hc (by decide)
  rw [decodeValue, hskip]
  split <;> first
    | exact hparse
    | (rename_i heq
       obtain rfl : c = _ := (List.cons_eq_cons.mp heq).1
       exact absurd hc (by decide))

/-! ## Values -/

lemma printItems_head (xs : List Value) (rest : List Char) :
    NoNumberHead (Value.printItems xs ++ rest) := by
  cases xs <;> exact noNumberHead_cons (by decide)

lemma printEntries_head (kvs : List (String × Value)) (rest : List Char) :
    NoNumberHead (Value.printEntries kvs ++ rest) := by
  rcases kvs with _ | ⟨⟨k, v⟩, kvs⟩ <;> exact noNumberHead_cons (by decide)

/-- No printed value starts with a blank or a closing bracket. -/
lemma Value.print_head (v : Value) :
    ∃ c cs, v.print = c :: cs ∧ c ≠ ']' ∧ skipBlanks (c :: cs) = c :: cs := by
  have hnumber : ∀ token : List Char, token ≠ [] → (∀ c ∈ token, isNumberChar c = true) →
      ∃ c cs, token = c :: cs ∧ c ≠ ']' ∧ skipBlanks (c :: cs) = c :: cs := by
    intro token hne ht
    obtain ⟨c, cs, rfl⟩ := List.exists_cons_of_ne_nil hne
    have hc := ht c (List.mem_cons_self ..)
    refine ⟨c, cs, rfl, ?_, ?_⟩
    · rintro rfl
      exact absurd hc (by decide)
    · rw [skipBlanks, if_neg]
      rintro (rfl | rfl | rfl | rfl) <;> exact absurd hc (by decide)
  match v with
  | .null => exact ⟨_, _, rfl, by decide, rfl⟩
  | .bool true => exact ⟨_, _, rfl, by decide, rfl⟩
  | .bool false => exact ⟨_, _, rfl, by decide, rfl⟩
  | .int n => rw [Value.print]; exact hnumber _ (printInt_ne_nil n) (printInt_numberChars n)
  | .number x => rw [Value.print]; exact hnumber _ x.literal_ne_nil x.numberChars
  | .str s => exact ⟨_, _, by rw [Value.print, printStr], by decide, rfl⟩
  | .list [] => exact ⟨_, _, by rw [Value.print], by decide, rfl⟩
  | .list (x :: xs) => exact ⟨_, _, by rw [Value.print], by decide, rfl⟩
  | .dict [] => exact ⟨_, _, by rw [Value.print], by decide, rfl⟩
  | .dict ((k, v) :: kvs) => exact ⟨_, _, by rw [Value.print], by decide, rfl⟩

mutual
/-- A printed value is read back, given the fuel it needs, whatever ends it. -/
lemma decodeValue_print : ∀ (v : Value) (fuel : ℕ) (rest : List Char), v.readable = true →
    v.weight ≤ fuel + 1 → NoNumberHead rest →
    decodeValue (fuel + 1) (v.print ++ rest) = some (v, rest)
  | .null, fuel, rest, _, _, _ => by simp [Value.print, decodeValue, skipBlanks]
  | .bool true, fuel, rest, _, _, _ => by simp [Value.print, decodeValue, skipBlanks]
  | .bool false, fuel, rest, _, _, _ => by simp [Value.print, decodeValue, skipBlanks]
  | .int n, fuel, rest, hv, _, hr => by
      rw [Value.print]
      exact decodeValue_number (printInt_numberChars n) (printInt_ne_nil n) hr (readExact_int hv)
  | .number x, fuel, rest, _, _, hr => by
      rw [Value.print]
      exact decodeValue_number x.numberChars x.literal_ne_nil hr (readExact_number x)
  | .str s, fuel, rest, _, _, _ => by
      simp [Value.print, printStr, decodeValue, skipBlanks, parseStrTail_printStrTail]
  | .list [], fuel, rest, _, _, _ => by simp [Value.print, decodeValue, skipBlanks]
  | .list (x :: xs), fuel, rest, hv, hw, hr => by
      have hpos := x.weight_pos
      have hpos' := Value.weightItems_pos xs
      rw [Value.weight] at hw
      simp only [Value.readable, Value.readableItems, Bool.and_eq_true] at hv
      obtain ⟨fuel, rfl⟩ : ∃ n, fuel = n + 1 := ⟨fuel - 1, by omega⟩
      have hx := decodeValue_print x fuel (Value.printItems xs ++ rest) hv.1 (by omega)
        (printItems_head xs rest)
      have hxs := decodeItems_print xs fuel rest hv.2 (by omega)
      obtain ⟨c, cs, hprint, hc, hskip⟩ := x.print_head
      rw [hprint] at hx
      rw [Value.print, hprint, List.cons_append, decodeValue, skipBlanks, if_neg (by decide)]
      simp only [List.append_assoc]
      rw [skipBlanks_append hskip]
      split
      · rename_i heq
        exact absurd (List.cons_eq_cons.mp heq).1 hc
      · rw [hx]
        simp only [hxs, Option.map_some]
  | .dict [], fuel, rest, _, _, _ => by simp [Value.print, decodeValue, skipBlanks]
  | .dict ((k, v) :: kvs), fuel, rest, hv, hw, hr => by
      have hpos := v.weight_pos
      rw [Value.weight] at hw
      simp only [Value.readable, Value.readableEntries, Bool.and_eq_true,
        decide_eq_true_eq] at hv
      obtain ⟨hnodup, hreadable, hrest⟩ := hv
      obtain ⟨fuel, rfl⟩ : ∃ n, fuel = n + 1 := ⟨fuel - 1, by omega⟩
      have hentry := decodeEntry_print k v fuel (Value.printEntries kvs ++ rest) hreadable
        (by omega) (printEntries_head kvs rest)
      have hkvs := decodeEntries_print kvs fuel rest hrest (by omega)
      rw [Value.print, List.cons_append, decodeValue, skipBlanks, if_neg (by decide)]
      simp only [List.append_assoc, List.cons_append] at hentry ⊢
      rw [printStr, List.cons_append, skipBlanks, if_neg (by decide)]
      rw [printStr, List.cons_append] at hentry
      split
      · rename_i heq
        exact absurd (List.cons_eq_cons.mp heq).1 (by decide)
      · rw [hentry]
        simp only [hkvs, Option.bind_some, uniquePairs, if_pos hnodup, Option.map_some]
/-- The rest of a printed list is read back. -/
lemma decodeItems_print : ∀ (xs : List Value) (fuel : ℕ) (rest : List Char),
    Value.readableItems xs = true → Value.weightItems xs ≤ fuel + 1 →
    decodeItems (fuel + 1) (Value.printItems xs ++ rest) = some (xs, rest)
  | [], fuel, rest, _, _ => by simp [Value.printItems, decodeItems, skipBlanks]
  | x :: xs, fuel, rest, hv, hw => by
      have hpos := x.weight_pos
      rw [Value.weightItems] at hw
      simp only [Value.readableItems, Bool.and_eq_true] at hv
      obtain ⟨fuel, rfl⟩ : ∃ n, fuel = n + 1 := ⟨fuel - 1, by omega⟩
      have hx := decodeValue_print x fuel (Value.printItems xs ++ rest) hv.1 (by omega)
        (printItems_head xs rest)
      have hxs := decodeItems_print xs fuel rest hv.2 (by omega)
      rw [Value.printItems, List.cons_append, decodeItems, skipBlanks, if_neg (by decide)]
      simp only [List.append_assoc, hx, hxs, Option.map_some]
/-- A printed entry is read back. -/
lemma decodeEntry_print : ∀ (k : String) (v : Value) (fuel : ℕ) (rest : List Char),
    v.readable = true → v.weight ≤ fuel → NoNumberHead rest →
    decodeEntry (fuel + 1) (printStr false k ++ ':' :: (v.print ++ rest)) = some ((k, v), rest)
  | k, v, fuel, rest, hread, hw, hr => by
      have hpos := v.weight_pos
      obtain ⟨fuel, rfl⟩ : ∃ n, fuel = n + 1 := ⟨fuel - 1, by omega⟩
      have hv := decodeValue_print v fuel rest hread hw hr
      simp [printStr, decodeEntry, skipBlanks, parseStrTail_printStrTail, hv]
/-- The rest of a printed dictionary is read back. -/
lemma decodeEntries_print : ∀ (kvs : List (String × Value)) (fuel : ℕ) (rest : List Char),
    Value.readableEntries kvs = true → Value.weightEntries kvs ≤ fuel + 1 →
    decodeEntries (fuel + 1) (Value.printEntries kvs ++ rest) = some (kvs, rest)
  | [], fuel, rest, _, _ => by simp [Value.printEntries, decodeEntries, skipBlanks]
  | (k, v) :: kvs, fuel, rest, hv, hw => by
      have hpos := v.weight_pos
      rw [Value.weightEntries] at hw
      simp only [Value.readableEntries, Bool.and_eq_true] at hv
      obtain ⟨fuel, rfl⟩ : ∃ n, fuel = n + 1 := ⟨fuel - 1, by omega⟩
      have hentry := decodeEntry_print k v fuel (Value.printEntries kvs ++ rest) hv.1 (by omega)
        (printEntries_head kvs rest)
      have hkvs := decodeEntries_print kvs fuel rest hv.2 (by omega)
      rw [Value.printEntries, List.cons_append, decodeEntries, skipBlanks, if_neg (by decide)]
      simp only [List.append_assoc, List.cons_append, hentry, hkvs, Option.map_some]
end

mutual
lemma Value.weight_le_length : ∀ v : Value, v.weight ≤ v.print.length
  | .null => by simp [Value.weight, Value.print]
  | .bool true => by simp [Value.weight, Value.print]
  | .bool false => by simp [Value.weight, Value.print]
  | .int n => by
      rw [Value.weight, Value.print]
      · exact List.length_pos_iff.mpr (printInt_ne_nil n)
      all_goals simp
  | .number x => by
      rw [Value.weight, Value.print]
      · exact List.length_pos_iff.mpr x.literal_ne_nil
      all_goals simp
  | .str s => by simp [Value.weight, Value.print, printStr]
  | .list [] => by simp [Value.weight, Value.print]
  | .list (x :: xs) => by
      have hx := x.weight_le_length
      have hxs := Value.weightItems_le_length xs
      simp only [Value.weight, Value.print, List.length_cons, List.length_append]
      omega
  | .dict [] => by simp [Value.weight, Value.print]
  | .dict ((k, v) :: kvs) => by
      have hv := v.weight_le_length
      have hkvs := Value.weightEntries_le_length kvs
      simp only [Value.weight, Value.print, printStr, List.length_cons, List.length_append]
      omega
lemma Value.weightItems_le_length : ∀ xs : List Value,
    Value.weightItems xs ≤ (Value.printItems xs).length
  | [] => by simp [Value.weightItems, Value.printItems]
  | x :: xs => by
      have hx := x.weight_le_length
      have hxs := Value.weightItems_le_length xs
      simp only [Value.weightItems, Value.printItems, List.length_cons, List.length_append]
      omega
lemma Value.weightEntries_le_length : ∀ kvs : List (String × Value),
    Value.weightEntries kvs ≤ (Value.printEntries kvs).length
  | [] => by simp [Value.weightEntries, Value.printEntries]
  | (k, v) :: kvs => by
      have hv := v.weight_le_length
      have hkvs := Value.weightEntries_le_length kvs
      simp only [Value.weightEntries, Value.printEntries, printStr, List.length_cons,
        List.length_append]
      omega
end

/-! ## The law -/

/-- The exact text of a value holds the value. -/
theorem decodeExact_exact {v : Value} (h : v.sorted.readable = true) :
    decodeExact v.exact = some v.sorted := by
  have hw := v.sorted.weight_le_length
  have hparse := decodeValue_print v.sorted v.sorted.print.length [] h (by omega) noNumberHead_nil
  rw [List.append_nil] at hparse
  simp [decodeExact, Value.exact, hparse, skipBlanks]

/-- A snapshot holds the payload it was built from. -/
theorem data_build {kind : String} {payload sorted : Object}
    (hsorted : (Value.dict payload).sorted = .dict sorted)
    (h : (Value.dict sorted).readable = true) :
    (ArtifactSnapshot.build kind payload).data = .ok sorted := by
  have hdecode : decodeExact (Value.dict payload).exact = some (.dict sorted) := by
    rw [decodeExact_exact (hsorted ▸ h), hsorted]
  simp [ArtifactSnapshot.data, ArtifactSnapshot.build, require, ensure, hdecode]

/-! ## The digest -/

mutual
/-- The bytes of the text of a value and of what follows. -/
def Value.bytes : Value → List ℕ → List ℕ
  | .null, rest => 110 :: 117 :: 108 :: 108 :: rest
  | .bool true, rest => 116 :: 114 :: 117 :: 101 :: rest
  | .bool false, rest => 102 :: 97 :: 108 :: 115 :: 101 :: rest
  | .int n, rest => encodeChars (printInt n) ++ rest
  | .number x, rest => encodeChars x.literal ++ rest
  | .str s, rest => strBytes s rest
  | .list [], rest => 91 :: 93 :: rest
  | .list (x :: xs), rest => 91 :: x.bytes (Value.bytesItems xs rest)
  | .dict [], rest => 123 :: 125 :: rest
  | .dict ((k, v) :: kvs), rest => 123 :: strBytes k (58 :: v.bytes (Value.bytesEntries kvs rest))
/-- The bytes of the rest of a list after an item. -/
def Value.bytesItems : List Value → List ℕ → List ℕ
  | [], rest => 93 :: rest
  | x :: xs, rest => 44 :: x.bytes (Value.bytesItems xs rest)
/-- The bytes of the rest of a dictionary after an entry. -/
def Value.bytesEntries : List (String × Value) → List ℕ → List ℕ
  | [], rest => 125 :: rest
  | (k, v) :: kvs, rest => 44 :: strBytes k (58 :: v.bytes (Value.bytesEntries kvs rest))
end

mutual
lemma Value.encodeChars_print :
    ∀ (v : Value) (rest : List ℕ), encodeChars v.print ++ rest = v.bytes rest
  | .null, _ => rfl
  | .bool true, _ => rfl
  | .bool false, _ => rfl
  | .int _, _ => rfl
  | .number _, _ => rfl
  | .str s, rest => encodeChars_printStr s rest
  | .list [], _ => rfl
  | .list (x :: xs), rest => by
      rw [Value.print, Value.bytes, encodeChars_cons, encodeChars_append, List.append_assoc,
        List.append_assoc, Value.encodeChars_printItems xs, x.encodeChars_print]
      rfl
  | .dict [], _ => rfl
  | .dict ((k, v) :: kvs), rest => by
      rw [Value.print, Value.bytes, encodeChars_cons, encodeChars_append, encodeChars_cons,
        encodeChars_append, List.append_assoc, List.append_assoc, List.append_assoc,
        List.append_assoc, Value.encodeChars_printEntries kvs, v.encodeChars_print,
        encodeChars_printStr]
      rfl
lemma Value.encodeChars_printItems : ∀ (xs : List Value) (rest : List ℕ),
    encodeChars (Value.printItems xs) ++ rest = Value.bytesItems xs rest
  | [], _ => rfl
  | x :: xs, rest => by
      rw [Value.printItems, Value.bytesItems, encodeChars_cons, encodeChars_append,
        List.append_assoc, List.append_assoc, Value.encodeChars_printItems xs,
        x.encodeChars_print]
      rfl
lemma Value.encodeChars_printEntries : ∀ (kvs : List (String × Value)) (rest : List ℕ),
    encodeChars (Value.printEntries kvs) ++ rest = Value.bytesEntries kvs rest
  | [], _ => rfl
  | (k, v) :: kvs, rest => by
      rw [Value.printEntries, Value.bytesEntries, encodeChars_cons, encodeChars_append,
        encodeChars_cons, encodeChars_append, List.append_assoc, List.append_assoc,
        List.append_assoc, List.append_assoc, Value.encodeChars_printEntries kvs,
        v.encodeChars_print, encodeChars_printStr]
      rfl
end

/-- The digest of a snapshot whose payload is in order. -/
theorem sha256_build {kind : String} {payload : Object}
    (hsorted : (Value.dict payload).sorted = .dict payload) :
    (ArtifactSnapshot.build kind payload).sha256 =
      digestText (digestWords ((Value.dict payload).bytes [])) := by
  have hbytes : utf8 (Value.dict payload).exact = (Value.dict payload).bytes [] := by
    rw [← Value.encodeChars_print, List.append_nil, Value.exact, hsorted, utf8,
      String.toList_ofList]
    rfl
  rw [← hbytes]
  exact sha256Hex_eq _

end CivicGate.Rq6
