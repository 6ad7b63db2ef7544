import CivicGate.Framework.Json.RoundTrip
import CivicGate.Framework.Sha256

/-!
# The size of a canonical text

With `ensure_ascii` the canonical text is ASCII, so its bytes are its characters
(`utf8_canonical_length`), and `Json.sizeBound` bounds them from the lengths of the strings
alone: a character is escaped in at most twelve.
-/

namespace CivicGate

/-! ## ASCII -/

lemma hexDigit_ascii : ∀ n, n < 16 → (hexDigit n).toNat < 128 := by decide

lemma unicodeEscape_ascii (n : ℕ) : ∀ c ∈ unicodeEscape n, c.toNat < 128 := by
  have h (m : ℕ) : (hexDigit (m % 16)).toNat < 128 := hexDigit_ascii _ (Nat.mod_lt _ (by decide))
  simp only [unicodeEscape, List.mem_cons, List.not_mem_nil, or_false, forall_eq_or_imp,
    forall_eq, h, and_true]
  decide

lemma escapeChar_ascii (c : Char) : ∀ d ∈ escapeChar true c, d.toNat < 128 := by
  intro d hd
  have hpair (a b : Char) (ha : a.toNat < 128) (hb : b.toNat < 128) (h : d ∈ [a, b]) :
      d.toNat < 128 := by
    rcases List.mem_cons.mp h with rfl | h
    · exact ha
    · exact List.mem_singleton.mp h ▸ hb
  unfold escapeChar at hd
  split_ifs at hd with hq hb hn hr ht hbs hff hctl hascii hbmp
  all_goals try exact hpair _ _ (by decide) (by decide) hd
  · exact unicodeEscape_ascii _ d hd
  · exact unicodeEscape_ascii _ d hd
  · rcases List.mem_append.mp hd with hd | hd <;> exact unicodeEscape_ascii _ d hd
  · obtain rfl := List.mem_singleton.mp hd
    simp only [Bool.true_and, decide_eq_true_eq, not_le] at hascii
    omega

lemma printStrTail_ascii : ∀ cs : List Char, ∀ d ∈ printStrTail true cs, d.toNat < 128
  | [], d, hd => by
      rw [List.mem_singleton.mp hd]
      decide
  | c :: cs, d, hd => by
      rcases List.mem_append.mp hd with hd | hd
      · exact escapeChar_ascii c d hd
      · exact printStrTail_ascii cs d hd

lemma printStr_ascii (s : String) : ∀ d ∈ printStr true s, d.toNat < 128 := by
  intro d hd
  rcases List.mem_cons.mp hd with rfl | hd
  · decide
  · exact printStrTail_ascii _ d hd

lemma numberChar_ascii {c : Char} (h : isNumberChar c = true) : c.toNat < 128 := by
  simp only [isNumberChar, Bool.or_eq_true, decide_eq_true_eq] at h
  rcases h with ((((h | rfl) | rfl) | rfl) | rfl) | rfl
  · simp only [Char.isDigit, Bool.and_eq_true, decide_eq_true_eq] at h
    have : c.val.toNat ≤ 57 := h.2
    show c.val.toNat < 128
    omega
  all_goals decide

/-- The characters are ASCII. -/
def Ascii (cs : List Char) : Prop := ∀ d ∈ cs, d.toNat < 128

lemma ascii_of_all {cs : List Char} (h : cs.all (fun d => decide (d.toNat < 128)) = true) :
    Ascii cs :=
  fun d hd => of_decide_eq_true (List.all_eq_true.mp h d hd)

lemma ascii_cons {c : Char} {cs : List Char} (hc : c.toNat < 128) (h : Ascii cs) :
    Ascii (c :: cs) :=
  List.forall_mem_cons.mpr ⟨hc, h⟩

lemma ascii_append {cs ds : List Char} (hc : Ascii cs) (hd : Ascii ds) : Ascii (cs ++ ds) :=
  List.forall_mem_append.mpr ⟨hc, hd⟩

mutual
lemma Json.print_ascii : ∀ v : Json, Ascii (v.print true)
  | .null => by rw [Json.print]; exact ascii_of_all (by decide)
  | .bool true => by rw [Json.print]; exact ascii_of_all (by decide)
  | .bool false => by rw [Json.print]; exact ascii_of_all (by decide)
  | .int n => by
      rw [Json.print]
      exact fun d hd => numberChar_ascii (printInt_numberChars n d hd)
  | .float x => by
      rw [Json.print]
      exact fun d hd => numberChar_ascii (x.numberChars d hd)
  | .str s => by
      rw [Json.print]
      exact printStr_ascii s
  | .list [] => by rw [Json.print]; exact ascii_of_all (by decide)
  | .list (x :: xs) => by
      rw [Json.print]
      exact ascii_cons (by decide) (ascii_append x.print_ascii (Json.printItems_ascii xs))
  | .dict [] => by rw [Json.print]; exact ascii_of_all (by decide)
  | .dict ((k, v) :: kvs) => by
      rw [Json.print]
      exact ascii_cons (by decide) (ascii_append (printStr_ascii k) (ascii_cons (by decide)
        (ascii_append v.print_ascii (Json.printEntries_ascii kvs))))
lemma Json.printItems_ascii : ∀ xs : List Json, Ascii (Json.printItems true xs)
  | [] => by rw [Json.printItems]; exact ascii_of_all (by decide)
  | x :: xs => by
      rw [Json.printItems]
      exact ascii_cons (by decide) (ascii_append x.print_ascii (Json.printItems_ascii xs))
lemma Json.printEntries_ascii : ∀ kvs : List (String × Json), Ascii (Json.printEntries true kvs)
  | [] => by rw [Json.printEntries]; exact ascii_of_all (by decide)
  | (k, v) :: kvs => by
      rw [Json.printEntries]
      exact ascii_cons (by decide) (ascii_append (printStr_ascii k) (ascii_cons (by decide)
        (ascii_append v.print_ascii (Json.printEntries_ascii kvs))))
end

lemma utf8Size_ascii {c : Char} (h : c.toNat < 128) : c.utf8Size = 1 := by
  have hle : c.val ≤ 127 := by
    rw [UInt32.le_iff_toNat_le]
    show c.toNat ≤ 127
    omega
  simp [Char.utf8Size, hle]

/-- The bytes of a canonical text are its characters. -/
lemma utf8_canonical_length (v : Json) :
    (utf8 (canonical true v)).length = (v.normalize.print true).length := by
  have h : ∀ cs : List Char, Ascii cs →
      (cs.flatMap fun c => (String.utf8EncodeChar c).map UInt8.toNat).length = cs.length := by
    intro cs hcs
    induction cs with
    | nil => rfl
    | cons c cs ih =>
        obtain ⟨hc, hcs⟩ := List.forall_mem_cons.mp hcs
        rw [List.flatMap_cons, List.length_append, ih hcs, List.length_map,
          String.length_utf8EncodeChar, utf8Size_ascii hc, List.length_cons, Nat.add_comm]
  rw [utf8, canonical, String.toList_ofList, h _ v.normalize.print_ascii]

/-! ## Bounds -/

/-- The character stands for itself in a printed string. -/
def isPlain (c : Char) : Bool := escapeChar true c = [c]

/-- A bound on the length of a printed string. -/
def strBound (s : String) : ℕ :=
  if s.toList.all isPlain then s.length + 2 else 12 * s.length + 2

mutual
/-- A bound on the length of a printed value. -/
def Json.sizeBound : Json → ℕ
  | .null => 4
  | .bool _ => 5
  | .int n => (printInt n).length
  | .float _ => 24
  | .str s => strBound s
  | .list xs => Json.sizeBoundItems xs + 2
  | .dict kvs => Json.sizeBoundEntries kvs + 2
/-- `Json.sizeBound` on list items. -/
def Json.sizeBoundItems : List Json → ℕ
  | [] => 0
  | x :: xs => x.sizeBound + Json.sizeBoundItems xs + 1
/-- `Json.sizeBound` on dictionary entries. -/
def Json.sizeBoundEntries : List (String × Json) → ℕ
  | [] => 0
  | (k, v) :: kvs => strBound k + v.sizeBound + Json.sizeBoundEntries kvs + 2
end

lemma escapeChar_length (c : Char) : (escapeChar true c).length ≤ 12 := by
  unfold escapeChar
  split_ifs <;> simp [unicodeEscape]

lemma printStrTail_length (cs : List Char) :
    (printStrTail true cs).length ≤ 12 * cs.length + 1 := by
  induction cs with
  | nil => simp [printStrTail]
  | cons c cs ih =>
      have := escapeChar_length c
      rw [printStrTail, List.length_append, List.length_cons]
      omega

lemma printStrTail_plain {cs : List Char} (h : cs.all isPlain = true) :
    (printStrTail true cs).length = cs.length + 1 := by
  induction cs with
  | nil => simp [printStrTail]
  | cons c cs ih =>
      rw [List.all_cons, Bool.and_eq_true] at h
      have hc : escapeChar true c = [c] := of_decide_eq_true h.1
      rw [printStrTail, hc, List.singleton_append, List.length_cons, ih h.2, List.length_cons]

lemma strBound_le (s : String) : strBound s ≤ 12 * s.length + 2 := by
  unfold strBound
  split <;> omega

lemma printStr_length (s : String) : (printStr true s).length ≤ strBound s := by
  rw [printStr, List.length_cons, strBound]
  split
  · rename_i h
    rw [printStrTail_plain h, String.length_toList]
  · have := printStrTail_length s.toList
    rw [String.length_toList] at this
    omega

mutual
lemma Json.length_print_le : ∀ v : Json, (v.print true).length ≤ v.sizeBound
  | .null => by simp [Json.print, Json.sizeBound]
  | .bool true => by simp [Json.print, Json.sizeBound]
  | .bool false => by simp [Json.print, Json.sizeBound]
  | .int n => by rw [Json.print, Json.sizeBound]
  | .float x => by
      rw [Json.print, Json.sizeBound]
      exact x.length_text_le
  | .str s => by
      rw [Json.print, Json.sizeBound]
      exact printStr_length s
  | .list [] => by simp [Json.print, Json.sizeBound, Json.sizeBoundItems]
  | .list (x :: xs) => by
      have hx := x.length_print_le
      have hxs := Json.length_printItems_le xs
      simp only [Json.print, Json.sizeBound, Json.sizeBoundItems, List.length_cons,
        List.length_append]
      omega
  | .dict [] => by simp [Json.print, Json.sizeBound, Json.sizeBoundEntries]
  | .dict ((k, v) :: kvs) => by
      have hk := printStr_length k
      have hv := v.length_print_le
      have hkvs := Json.length_printEntries_le kvs
      simp only [Json.print, Json.sizeBound, Json.sizeBoundEntries, List.length_cons,
        List.length_append]
      omega
lemma Json.length_printItems_le : ∀ xs : List Json,
    (Json.printItems true xs).length ≤ Json.sizeBoundItems xs + 1
  | [] => by simp [Json.printItems, Json.sizeBoundItems]
  | x :: xs => by
      have hx := x.length_print_le
      have hxs := Json.length_printItems_le xs
      simp only [Json.printItems, Json.sizeBoundItems, List.length_cons, List.length_append]
      omega
lemma Json.length_printEntries_le : ∀ kvs : List (String × Json),
    (Json.printEntries true kvs).length ≤ Json.sizeBoundEntries kvs + 1
  | [] => by simp [Json.printEntries, Json.sizeBoundEntries]
  | (k, v) :: kvs => by
      have hk := printStr_length k
      have hv := v.length_print_le
      have hkvs := Json.length_printEntries_le kvs
      simp only [Json.printEntries, Json.sizeBoundEntries, List.length_cons, List.length_append]
      omega
end

/-! ### A dictionary is no larger in key order -/

lemma sizeBoundEntries_insertKey (k : String) (v : Json) (kvs : List (String × Json)) :
    Json.sizeBoundEntries (insertKey k v kvs) ≤ Json.sizeBoundEntries ((k, v) :: kvs) := by
  induction kvs with
  | nil => rfl
  | cons e rest ih =>
      obtain ⟨l, w⟩ := e
      unfold insertKey
      split_ifs with hlt heq
      · rfl
      · simp only [Json.sizeBoundEntries]
        omega
      · simp only [Json.sizeBoundEntries] at ih ⊢
        omega

lemma withinDigitsEntries_insertKey {k : String} {v : Json} {kvs : List (String × Json)}
    (hv : v.withinDigits = true) (h : Json.withinDigitsEntries kvs = true) :
    Json.withinDigitsEntries (insertKey k v kvs) = true := by
  induction kvs with
  | nil => simp [insertKey, Json.withinDigitsEntries, hv]
  | cons e rest ih =>
      obtain ⟨l, w⟩ := e
      have hparts := h
      rw [Json.withinDigitsEntries, Bool.and_eq_true] at hparts
      unfold insertKey
      split_ifs with hlt heq
      · rw [Json.withinDigitsEntries, hv, h, Bool.and_self]
      · exact h
      · rw [Json.withinDigitsEntries, hparts.1, ih hparts.2, Bool.and_self]

mutual
lemma Json.sizeBound_normalize : ∀ v : Json, v.normalize.sizeBound ≤ v.sizeBound
  | .null => by rw [Json.normalize_null]
  | .bool b => by rw [Json.normalize_bool]
  | .int n => by rw [Json.normalize_int]
  | .float x => by rw [Json.normalize_float]
  | .str s => by rw [Json.normalize_str]
  | .list xs => by
      have h := Json.sizeBoundItems_normalize xs
      simp only [Json.normalize, Json.sizeBound]
      omega
  | .dict kvs => by
      have h := Json.sizeBoundEntries_normalize kvs
      simp only [Json.normalize, Json.sizeBound]
      omega
lemma Json.sizeBoundItems_normalize : ∀ xs : List Json,
    Json.sizeBoundItems (Json.normalizeList xs) ≤ Json.sizeBoundItems xs
  | [] => by rw [Json.normalizeList]
  | x :: xs => by
      have hx := x.sizeBound_normalize
      have hxs := Json.sizeBoundItems_normalize xs
      simp only [Json.normalizeList, Json.sizeBoundItems]
      omega
lemma Json.sizeBoundEntries_normalize : ∀ kvs : List (String × Json),
    Json.sizeBoundEntries (Json.normalizeDict kvs) ≤ Json.sizeBoundEntries kvs
  | [] => by rw [Json.normalizeDict]
  | (k, v) :: kvs => by
      have hv := v.sizeBound_normalize
      have hkvs := Json.sizeBoundEntries_normalize kvs
      have hinsert := sizeBoundEntries_insertKey k v.normalize (Json.normalizeDict kvs)
      simp only [Json.normalizeDict, Json.sizeBoundEntries] at hinsert ⊢
      omega
end

@[simp] lemma withinDigits_null : Json.null.withinDigits = true := by rw [Json.withinDigits] <;> simp

@[simp] lemma withinDigits_bool (b : Bool) : (Json.bool b).withinDigits = true := by
  rw [Json.withinDigits] <;> simp

@[simp] lemma withinDigits_float (x : PyFloat) : (Json.float x).withinDigits = true := by
  rw [Json.withinDigits] <;> simp

@[simp] lemma withinDigits_str (s : String) : (Json.str s).withinDigits = true := by
  rw [Json.withinDigits] <;> simp

mutual
lemma Json.withinDigits_normalize : ∀ v : Json, v.withinDigits = true →
    v.normalize.withinDigits = true
  | .null => by rw [Json.normalize_null]; exact id
  | .bool b => by rw [Json.normalize_bool]; exact id
  | .int n => by rw [Json.normalize_int]; exact id
  | .float x => by rw [Json.normalize_float]; exact id
  | .str s => by rw [Json.normalize_str]; exact id
  | .list xs => by
      rw [Json.normalize, Json.withinDigits, Json.withinDigits]
      exact Json.withinDigitsItems_normalize xs
  | .dict kvs => by
      rw [Json.normalize, Json.withinDigits, Json.withinDigits]
      exact Json.withinDigitsEntries_normalize kvs
lemma Json.withinDigitsItems_normalize : ∀ xs : List Json, Json.withinDigitsItems xs = true →
    Json.withinDigitsItems (Json.normalizeList xs) = true
  | [] => by rw [Json.normalizeList]; exact id
  | x :: xs => by
      rw [Json.normalizeList, Json.withinDigitsItems, Json.withinDigitsItems, Bool.and_eq_true,
        Bool.and_eq_true]
      exact And.imp x.withinDigits_normalize (Json.withinDigitsItems_normalize xs)
lemma Json.withinDigitsEntries_normalize : ∀ kvs : List (String × Json),
    Json.withinDigitsEntries kvs = true → Json.withinDigitsEntries (Json.normalizeDict kvs) = true
  | [] => by rw [Json.normalizeDict]; exact id
  | (k, v) :: kvs => by
      rw [Json.normalizeDict, Json.withinDigitsEntries, Bool.and_eq_true]
      exact fun h => withinDigitsEntries_insertKey (v.withinDigits_normalize h.1)
        (Json.withinDigitsEntries_normalize kvs h.2)
end

/-- The bytes of a canonical text are bounded by the strings and the integers in the value. -/
theorem utf8_canonical_le (v : Json) : (utf8 (canonical true v)).length ≤ v.sizeBound := by
  rw [utf8_canonical_length]
  exact v.normalize.length_print_le.trans v.sizeBound_normalize

/-! ### Integers -/

lemma printInt_length {n e : ℕ} (he : 0 < e) (h : n < 10 ^ e) : (printInt n).length ≤ e :=
  (Nat.length_toDigits_le_iff (by decide) he).mpr h

end CivicGate
