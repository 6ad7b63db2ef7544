import CivicGate.Framework.Sha256

/-!
# Digests evaluated

A proof checker computes with numbers, not with bit vectors, and reads a text more easily byte by
byte than character by character.  `digestWords` is the digest of a message in numbers alone: the
high bits of a sum, or of a word written twice and shifted, stay until the sum is complete, and
only then does `lowBits` take the word.  `sha256Hex_eq` says that it is `sha256Hex`.

`strBytes` gives the bytes of a JSON string without decoding the text.
-/

namespace CivicGate

/-! ## Words -/

-- The operations stand without their notation: unfolding its instances at every step would be
-- most of the work.

/-- The number modulo `2 ^ 32`. -/
def lowBits (x : ℕ) : ℕ := Nat.land x 4294967295

def xor3 (a b c : ℕ) : ℕ := Nat.xor (Nat.xor a b) c

/-- A word twice in a row: shifted right, its low bits are the word rotated right. -/
def twice (x : ℕ) : ℕ := Nat.mul x 4294967297

/-- Three rotations of a word. -/
def rotations (i j k x : ℕ) : ℕ :=
  xor3 (Nat.shiftRight (twice x) i) (Nat.shiftRight (twice x) j) (Nat.shiftRight (twice x) k)

/-- Two rotations of a word and a shift. -/
def rotationsShift (i j k x : ℕ) : ℕ :=
  xor3 (Nat.shiftRight (twice x) i) (Nat.shiftRight (twice x) j) (Nat.shiftRight x k)

lemma lowBits_eq (x : ℕ) : lowBits x = x % 2 ^ 32 := Nat.and_two_pow_sub_one_eq_mod x 32

lemma xor3_mod (a b c : ℕ) :
    xor3 a b c % 2 ^ 32 = a % 2 ^ 32 ^^^ b % 2 ^ 32 ^^^ c % 2 ^ 32 := by
  change (a ^^^ b ^^^ c) % 2 ^ 32 = _
  rw [Nat.xor_mod_two_pow, Nat.xor_mod_two_pow]

lemma shiftRight_twice_mod (w : Word) {n : ℕ} (hn : n < 32) :
    Nat.shiftRight (twice w.toNat) n % 2 ^ 32 = (w.rotateRight n).toNat := by
  have htwice : twice w.toNat = 2 ^ 32 * w.toNat + w.toNat := by
    change w.toNat * 4294967297 = _
    omega
  apply Nat.eq_of_testBit_eq
  intro i
  change (twice w.toNat >>> n % 2 ^ 32).testBit i = (w.rotateRight n).getLsbD i
  rw [Nat.testBit_mod_two_pow, Nat.testBit_shiftRight, htwice,
    Nat.testBit_two_pow_mul_add _ w.isLt, BitVec.getLsbD_rotateRight_of_lt hn]
  by_cases hi : i < 32 - n
  · have hlt : n + i < 32 := by omega
    have hi' : i < 32 := by omega
    simp [hi, hlt, hi', BitVec.getLsbD]
  · have hlt : ¬n + i < 32 := by omega
    have hsub : n + i - 32 = i - (32 - n) := by omega
    simp [hi, hlt, hsub, BitVec.getLsbD]

lemma rotations_mod (w : Word) {i j k : ℕ} (hi : i < 32) (hj : j < 32) (hk : k < 32) :
    rotations i j k w.toNat % 2 ^ 32 =
      (w.rotateRight i ^^^ w.rotateRight j ^^^ w.rotateRight k).toNat := by
  rw [rotations, xor3_mod, shiftRight_twice_mod w hi, shiftRight_twice_mod w hj,
    shiftRight_twice_mod w hk, BitVec.toNat_xor, BitVec.toNat_xor]

lemma rotationsShift_mod (w : Word) {i j k : ℕ} (hi : i < 32) (hj : j < 32) :
    rotationsShift i j k w.toNat % 2 ^ 32 =
      (w.rotateRight i ^^^ w.rotateRight j ^^^ w >>> k).toNat := by
  have hk : Nat.shiftRight w.toNat k % 2 ^ 32 = (w >>> k).toNat := by
    rw [BitVec.toNat_ushiftRight]
    exact Nat.mod_eq_of_lt (lt_of_le_of_lt (Nat.shiftRight_le ..) w.isLt)
  rw [rotationsShift, xor3_mod, shiftRight_twice_mod w hi, shiftRight_twice_mod w hj, hk,
    BitVec.toNat_xor, BitVec.toNat_xor]

/-- The message schedule from sixteen of its words on, a further word for each item. -/
def scheduleWords : List ℕ → (a b c d e f g h i j k l m n o p : ℕ) → List ℕ
  | [], a, b, c, d, e, f, g, h, i, j, k, l, m, n, o, p =>
    [a, b, c, d, e, f, g, h, i, j, k, l, m, n, o, p]
  | _ :: more, a, b, c, d, e, f, g, h, i, j, k, l, m, n, o, p =>
    a :: scheduleWords more b c d e f g h i j k l m n o p (lowBits (Nat.add (Nat.add (Nat.add a
      (rotationsShift 7 18 3 b)) j) (rotationsShift 17 19 10 o)))

lemma scheduleWords_eq (more : List ℕ) (a b c d e f g h i j k l m n o p : Word) (ws : List Word) :
    (extendSchedule more.length ([p, o, n, m, l, k, j, i, h, g, f, e, d, c, b, a] ++
      ws)).reverse.map BitVec.toNat = ws.reverse.map BitVec.toNat ++
      scheduleWords more a.toNat b.toNat c.toNat d.toNat e.toNat f.toNat g.toNat h.toNat i.toNat
        j.toNat k.toNat l.toNat m.toNat n.toNat o.toNat p.toNat := by
  induction more generalizing a b c d e f g h i j k l m n o p ws with
  | nil => simp [extendSchedule, scheduleWords]
  | cons _ more ih =>
      have hb := rotationsShift_mod b (k := 3) (show 7 < 32 by decide) (show 18 < 32 by decide)
      have ho := rotationsShift_mod o (k := 10) (show 17 < 32 by decide) (show 19 < 32 by decide)
      have hword : lowBits (Nat.add (Nat.add (Nat.add a.toNat (rotationsShift 7 18 3 b.toNat))
          j.toNat) (rotationsShift 17 19 10 o.toNat)) = (a + (b.rotateRight 7 ^^^ b.rotateRight 18
          ^^^ b >>> 3) + j + (o.rotateRight 17 ^^^ o.rotateRight 19 ^^^ o >>> 10)).toNat := by
        simp only [lowBits_eq, Nat.add_eq, BitVec.toNat_add, ← hb, ← ho]
        omega
      refine (ih b c d e f g h i j k l m n o p _ (a :: ws)).trans ?_
      rw [scheduleWords, hword]
      simp

/-- The rounds on the eight words of the state. -/
def roundWords : List ℕ → List ℕ → (a b c d e f g h : ℕ) → List ℕ
  | k :: ks, w :: ws, a, b, c, d, e, f, g, h =>
    let t := Nat.add (Nat.add (Nat.add (Nat.add h (rotations 6 11 25 e))
      (Nat.xor (Nat.land (Nat.xor f g) e) g)) k) w
    roundWords ks ws (lowBits (Nat.add t (Nat.add (rotations 2 13 22 a)
      (xor3 (Nat.land a b) (Nat.land a c) (Nat.land b c))))) a b c (lowBits (Nat.add d t)) e f g
  | _, _, a, b, c, d, e, f, g, h => [a, b, c, d, e, f, g, h]

/-- The words of a state. -/
def HashState.words (s : HashState) : List Word := [s.a, s.b, s.c, s.d, s.e, s.f, s.g, s.h]

lemma choice_eq (e f g : Word) : e &&& f ^^^ ~~~e &&& g = (f ^^^ g) &&& e ^^^ g := by
  ext i hi
  simp only [BitVec.getElem_xor, BitVec.getElem_and, BitVec.getElem_not]
  cases e[i] <;> cases f[i] <;> cases g[i] <;> rfl

lemma roundWords_map (ks ws : List Word) (s : HashState) :
    roundWords (ks.map BitVec.toNat) (ws.map BitVec.toNat) s.a.toNat s.b.toNat s.c.toNat s.d.toNat
      s.e.toNat s.f.toNat s.g.toNat s.h.toNat =
      ((ks.zip ws).foldl (fun t p => hashRound t p.1 p.2) s).words.map BitVec.toNat := by
  induction ks generalizing ws s with
  | nil => rfl
  | cons k ks ih =>
      cases ws with
      | nil => rfl
      | cons w ws =>
          have he := rotations_mod s.e (show 6 < 32 by decide) (show 11 < 32 by decide)
            (show 25 < 32 by decide)
          have ha := rotations_mod s.a (show 2 < 32 by decide) (show 13 < 32 by decide)
            (show 22 < 32 by decide)
          have hchoice : (s.e &&& s.f ^^^ ~~~s.e &&& s.g).toNat =
              Nat.xor (Nat.land (Nat.xor s.f.toNat s.g.toNat) s.e.toNat) s.g.toNat := by
            rw [choice_eq, BitVec.toNat_xor, BitVec.toNat_and, BitVec.toNat_xor]
            rfl
          have hmajority : (s.a &&& s.b ^^^ s.a &&& s.c ^^^ s.b &&& s.c).toNat =
              xor3 (Nat.land s.a.toNat s.b.toNat) (Nat.land s.a.toNat s.c.toNat)
                (Nat.land s.b.toNat s.c.toNat) := by
            simp only [BitVec.toNat_xor, BitVec.toNat_and]
            rfl
          rw [List.map_cons, List.map_cons, roundWords, List.zip_cons_cons, List.foldl_cons, ← ih]
          simp only [hashRound, lowBits_eq, Nat.add_eq, BitVec.toNat_add, hchoice, hmajority, ← he,
            ← ha]
          congr 1
          · omega
          · omega

/-- The round constants. -/
def constantWords : List ℕ := roundConstants.map BitVec.toNat

/-- The blocks of sixteen words. -/
def blocksWords : List ℕ → List ℕ → List ℕ
  | s, a :: b :: c :: d :: e :: f :: g :: h :: i :: j :: k :: l :: m :: n :: o :: p :: ws =>
    match s with
    | [s₁, s₂, s₃, s₄, s₅, s₆, s₇, s₈] =>
      blocksWords (List.zipWith (fun x y => lowBits (Nat.add x y)) s (roundWords constantWords
        (scheduleWords (constantWords.drop 16) a b c d e f g h i j k l m n o p)
        s₁ s₂ s₃ s₄ s₅ s₆ s₇ s₈)) ws
    | _ => s
  | s, _ => s

lemma length_moreWords : (constantWords.drop 16).length = 48 := by
  rw [constantWords, List.length_drop, List.length_map]
  rfl

lemma hashBlock_words_eq {s t : HashState} {block : List Word}
    (ht : (roundConstants.zip (extendSchedule 48 block.reverse).reverse).foldl
      (fun t p => hashRound t p.1 p.2) s = t) :
    (hashBlock s block).words.map BitVec.toNat =
      List.zipWith (fun x y => lowBits (Nat.add x y)) (s.words.map BitVec.toNat)
        (t.words.map BitVec.toNat) := by
  subst ht
  simp only [hashBlock, HashState.words, List.map_cons, List.map_nil, List.zipWith_cons_cons,
    List.zipWith_nil_right, lowBits_eq, Nat.add_eq, BitVec.toNat_add]

lemma hashBlock_words (s : HashState) (a b c d e f g h i j k l m n o p : Word) :
    (hashBlock s [a, b, c, d, e, f, g, h, i, j, k, l, m, n, o, p]).words.map BitVec.toNat =
      List.zipWith (fun x y => lowBits (Nat.add x y)) (s.words.map BitVec.toNat)
        (roundWords constantWords (scheduleWords (constantWords.drop 16) a.toNat b.toNat c.toNat
          d.toNat e.toNat f.toNat g.toNat h.toNat i.toNat j.toNat k.toNat l.toNat m.toNat n.toNat
          o.toNat p.toNat) s.a.toNat s.b.toNat s.c.toNat s.d.toNat s.e.toNat s.f.toNat s.g.toNat
          s.h.toNat) := by
  have hws := scheduleWords_eq (constantWords.drop 16) a b c d e f g h i j k l m n o p []
  rw [List.append_nil, List.reverse_nil, List.map_nil, List.nil_append, length_moreWords] at hws
  rw [← hws, constantWords, roundWords_map]
  exact hashBlock_words_eq rfl

lemma blocksWords_map (n : ℕ) (s : HashState) (ws : List Word) (hws : ws.length = 16 * n) :
    blocksWords (s.words.map BitVec.toNat) (ws.map BitVec.toNat) =
      (hashBlocks n s ws).words.map BitVec.toNat := by
  induction n generalizing s ws with
  | zero =>
      obtain rfl := List.length_eq_zero_iff.mp hws
      rfl
  | succ n ih =>
      match ws, hws with
      | a :: b :: c :: d :: e :: f :: g :: h :: i :: j :: k :: l :: m :: n' :: o :: p :: ws, hws =>
        have hlength : ws.length = 16 * n := by
          simp only [List.length_cons] at hws
          omega
        rw [hashBlocks]
        refine Eq.trans ?_ (ih (hashBlock s [a, b, c, d, e, f, g, h, i, j, k, l, m, n', o, p]) ws
          hlength)
        rw [hashBlock_words]
        rfl

/-- Four bytes as a number, the most significant first. -/
def numbersOfBytes : List ℕ → List ℕ
  | a :: b :: c :: d :: rest =>
    lowBits (a * 16777216 + b * 65536 + c * 256 + d) :: numbersOfBytes rest
  | _ => []

lemma numbersOfBytes_eq (bytes : List ℕ) :
    numbersOfBytes bytes = (wordsOfBytes bytes).map BitVec.toNat := by
  fun_induction numbersOfBytes bytes with
  | case1 a b c d rest ih =>
      rw [wordsOfBytes, List.map_cons, ← ih, BitVec.toNat_ofNat, lowBits_eq]
  | case2 bytes h =>
      rw [wordsOfBytes, List.map_nil]
      exact h

/-- The words of the digest of a message. -/
def digestWords (bytes : List ℕ) : List ℕ :=
  blocksWords (HashState.initial.words.map BitVec.toNat) (numbersOfBytes (padMessage bytes))

/-- The eight hexadecimal digits of a number. -/
def hexNumber (n : ℕ) : List Char :=
  [7, 6, 5, 4, 3, 2, 1, 0].map fun i => hexDigit (n / 16 ^ i % 16)

/-- The text of a digest. -/
def digestText (words : List ℕ) : String := String.ofList (words.flatMap hexNumber)

lemma length_wordsOfBytes (bytes : List ℕ) : (wordsOfBytes bytes).length = bytes.length / 4 := by
  fun_induction wordsOfBytes bytes with
  | case1 a b c d rest ih =>
      simp only [List.length_cons, ih]
      omega
  | case2 bytes h =>
      match bytes, h with
      | [], _ | [_], _ | [_, _], _ | [_, _, _], _ => simp
      | a :: b :: c :: d :: rest, h => exact (h a b c d rest rfl).elim

/-- A padded message fills its blocks. -/
lemma length_padMessage (bytes : List ℕ) : 64 ∣ (padMessage bytes).length := by
  simp only [padMessage, List.length_append, List.length_cons, List.length_replicate,
    List.length_map, List.length_range]
  omega

theorem sha256Hex_eq (text : String) :
    sha256Hex text = digestText (digestWords (utf8 text)) := by
  obtain ⟨n, hn⟩ := length_padMessage (utf8 text)
  have hlength : (wordsOfBytes (padMessage (utf8 text))).length = 16 * n := by
    rw [length_wordsOfBytes, hn]
    omega
  have hwords : digestWords (utf8 text) = (hashBlocks ((wordsOfBytes (padMessage
      (utf8 text))).length / 16) HashState.initial (wordsOfBytes (padMessage
        (utf8 text)))).words.map BitVec.toNat := by
    rw [digestWords, numbersOfBytes_eq, blocksWords_map n _ _ hlength, hlength]
    simp
  rw [digestText, hwords, List.flatMap_map]
  rfl

/-! ## Bytes of a text -/

/-- The UTF-8 encoding of characters. -/
def encodeChars (cs : List Char) : List ℕ :=
  cs.flatMap fun c => (String.utf8EncodeChar c).map UInt8.toNat

/-- The bytes a text consists of: its characters are decoded from them. -/
def textBytes (s : String) : List ℕ := s.toByteArray.data.toList.map UInt8.toNat

lemma textBytes_eq (s : String) : textBytes s = encodeChars s.toList := by
  rw [textBytes, ← String.utf8Encode_toList, List.utf8Encode, encodeChars]
  simp [List.map_flatMap]

/-- The bytes of a JSON string and of what follows: those of a text without escapes are the text's
own. -/
def strBytes (s : String) (rest : List ℕ) : List ℕ :=
  if (textBytes s).all fun b => Nat.ble 32 b && !Nat.beq b 34 && !Nat.beq b 92 then
    34 :: (textBytes s ++ 34 :: rest)
  else encodeChars (printStr false s) ++ rest

lemma encodeChars_append (cs ds : List Char) :
    encodeChars (cs ++ ds) = encodeChars cs ++ encodeChars ds := List.flatMap_append

lemma encodeChars_cons (c : Char) (cs : List Char) :
    encodeChars (c :: cs) = (String.utf8EncodeChar c).map UInt8.toNat ++ encodeChars cs := rfl

lemma escapeChar_of_bytes {c : Char} (h : ∀ b ∈ (String.utf8EncodeChar c).map UInt8.toNat,
    32 ≤ b ∧ b ≠ 34 ∧ b ≠ 92) : escapeChar false c = [c] := by
  have hlow : 32 ≤ c.toNat ∧ c.toNat ≠ 34 ∧ c.toNat ≠ 92 := by
    by_cases hc : c.toNat < 128
    · have hsize : c.utf8Size = 1 := Char.utf8Size_eq_one_iff.mpr (by
        rw [UInt32.le_iff_toNat_le]
        exact Nat.le_of_lt_succ hc)
      have hbyte : c.val.toUInt8.toNat = c.toNat := by
        rw [UInt32.toNat_toUInt8]
        exact Nat.mod_eq_of_lt (by change c.toNat < 256; omega)
      rw [String.utf8EncodeChar_eq_singleton hsize, List.map_singleton, hbyte] at h
      exact h _ (List.mem_singleton_self _)
    · omega
  have hne {d : Char} (hd : d.toNat < 32 ∨ d.toNat = 34 ∨ d.toNat = 92) : c ≠ d := by
    rintro rfl
    omega
  rw [escapeChar, if_neg (hne (by decide)), if_neg (hne (by decide)), if_neg (hne (by decide)),
    if_neg (hne (by decide)), if_neg (hne (by decide)), if_neg (hne (by decide)),
    if_neg (hne (by decide)), if_neg (by omega), if_neg (by simp)]

lemma printStrTail_of_bytes {cs : List Char}
    (h : ∀ b ∈ encodeChars cs, 32 ≤ b ∧ b ≠ 34 ∧ b ≠ 92) : printStrTail false cs = cs ++ ['"'] := by
  induction cs with
  | nil => rfl
  | cons c cs ih =>
      rw [encodeChars_cons] at h
      rw [printStrTail, escapeChar_of_bytes fun b hb => h b (List.mem_append_left _ hb),
        ih fun b hb => h b (List.mem_append_right _ hb)]
      rfl

lemma encodeChars_printStr (s : String) (rest : List ℕ) :
    encodeChars (printStr false s) ++ rest = strBytes s rest := by
  unfold strBytes
  split
  · rename_i h
    have hbytes : ∀ b ∈ encodeChars s.toList, 32 ≤ b ∧ b ≠ 34 ∧ b ≠ 92 := by
      intro b hb
      have hb := List.all_eq_true.mp h b (by rwa [textBytes_eq])
      simp only [Bool.and_eq_true, Bool.not_eq_true', Nat.ble_eq] at hb
      exact ⟨hb.1.1, Nat.ne_of_beq_eq_false hb.1.2, Nat.ne_of_beq_eq_false hb.2⟩
    rw [printStr, printStrTail_of_bytes hbytes, encodeChars_cons, encodeChars_append, textBytes_eq,
      List.append_assoc, List.append_assoc]
    rfl
  · rfl

end CivicGate
