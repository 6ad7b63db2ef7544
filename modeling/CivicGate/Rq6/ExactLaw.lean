import CivicGate.Rq6.Evidence

/-!
# The law of exact JSON

`decode_exact` reads back what `exact_json` prints, and printing that gives the same bytes, unless
the value holds an integer of more digits than Python reads or a number that prints as `-0`:
`decode_exact` reads `-0` as the integer zero, which prints as `0` (`exactJson_law`).

Text stands for its UTF-8 bytes.  `exact_json` writes no zero byte and starts with an ASCII
character, so `json.loads` takes its bytes for UTF-8.
-/

namespace CivicGate.Rq6

/-! ## Numbers -/

/-- What a number is read back as. -/
def Number.readBack (n : Number) : Option Number := n.token.bind Number.ofToken

/-- The number prints as something other than `-0`, and within Python's digits if as an integer. -/
def Number.Safe : Number → Prop
  | .int n => readableInt n = true
  | .exact literal =>
    literal.chars ≠ ['-', '0'] ∧ ∀ n, readInt literal.chars = some n → readableInt n = true
  | .decimal (.finite negative coefficient exponent) =>
    exponent = 0 → ¬ (negative = true ∧ coefficient = 0) ∧ readableInt coefficient = true
  | .decimal (.nonfinite _) => False
  | .float _ => True

/-- An integer, an `ExactNumber` or a finite `Decimal`. -/
def Number.IsExact : Number → Prop
  | .decimal (.nonfinite _) | .float _ => False
  | _ => True

lemma Number.isToken_chars {n : Number} {cs : List Char} (h : n.chars = some cs) :
    isNumberToken cs = true := by
  unfold Number.chars at h
  split at h
  · split_ifs at h
    obtain rfl := Option.some.inj h
    rw [isNumberToken, isSome_decimalOf, tokenValue_of_readInt (readInt_printInt _),
      Bool.and_eq_true]
    exact ⟨List.all_eq_true.mpr (printInt_numberChars _), rfl⟩
  · rename_i literal
    obtain rfl := Option.some.inj h
    exact literal.isToken
  · obtain rfl := Option.some.inj h
    exact isNumberToken_decimalText _ _ _
  · cases h
  · rename_i x
    obtain rfl := Option.some.inj h
    rw [isNumberToken, Bool.and_eq_true]
    have hrepr := x.isRepr
    simp only [isFloatRepr, Bool.and_eq_true, decide_eq_true_eq] at hrepr
    obtain ⟨d, hd, -⟩ := Option.bind_eq_some_iff.mp hrepr.2
    exact ⟨List.all_eq_true.mpr x.numberChars, by rw [hd]; rfl⟩

lemma Number.token_eq_some {n : Number} {t : Token} :
    n.token = some t ↔ n.chars = some t.chars := by
  unfold Number.token
  rw [Option.bind_eq_some_iff]
  constructor
  · rintro ⟨cs, hcs, ht⟩
    unfold token? at ht
    split_ifs at ht
    obtain rfl := Option.some.inj ht
    exact hcs
  · exact fun h => ⟨_, h, t.token?_chars⟩

/-- A number that prints has a token. -/
lemma Number.exists_token {n : Number} {cs : List Char} (h : n.chars = some cs) :
    ∃ t : Token, n.token = some t ∧ t.chars = cs :=
  ⟨⟨cs, Number.isToken_chars h⟩, Number.token_eq_some.mpr h, rfl⟩

/-- A token that is read prints as itself, but for `-0`. -/
lemma Number.token_ofToken {t : Token} {m : Number} (h : Number.ofToken t = some m) :
    m.token = some t ↔ t.chars ≠ ['-', '0'] := by
  rw [Number.token_eq_some]
  unfold Number.ofToken at h
  split at h
  · rename_i i hi
    split_ifs at h with hreadable
    obtain rfl := Option.some.inj h
    rw [Number.chars, if_pos hreadable, Option.some.injEq]
    exact printInt_of_readInt hi
  · rename_i hnone
    obtain rfl := Option.some.inj h
    refine iff_of_true rfl fun hzero => ?_
    rw [hzero] at hnone
    exact absurd hnone (by decide)

lemma Number.isSome_ofToken {t : Token} : (Number.ofToken t).isSome = true ↔
    ∀ i, readInt t.chars = some i → readableInt i = true := by
  unfold Number.ofToken
  split
  · rename_i i hi
    split_ifs with hreadable
    · simp [hi, hreadable]
    · simp [hi, hreadable]
  · rename_i hnone
    simp [hnone]

lemma readInt_eq_none {cs : List Char} {c : Char} (hc : c ∈ cs) (hdigit : c.isDigit = false)
    (hminus : c ≠ '-') : readInt cs = none := by
  unfold readInt
  split
  · rename_i ds
    rw [if_neg]
    intro hwhole
    rcases List.mem_cons.mp hc with rfl | hc
    · exact hminus rfl
    · rw [isWholePart_digits hwhole c hc] at hdigit
      cases hdigit
  · rw [if_neg]
    intro hwhole
    rw [isWholePart_digits hwhole c hc] at hdigit
    cases hdigit

/-- A decimal is printed as an integer exactly when its exponent is zero. -/
lemma readInt_decimalText (negative : Bool) (coefficient : ℕ) {exponent : ℤ}
    (h : exponent ≠ 0) : readInt (decimalText negative coefficient exponent) = none := by
  have hlength : 0 < (Nat.toDigits 10 coefficient).length :=
    List.length_pos_iff.mpr Nat.toDigits_ne_nil
  suffices hmark : '.' ∈ unsignedText coefficient exponent ∨
      'E' ∈ unsignedText coefficient exponent by
    rcases hmark with hmark | hmark
    · exact readInt_eq_none (List.mem_append_right _ hmark) (by decide) (by decide)
    · exact readInt_eq_none (List.mem_append_right _ hmark) (by decide) (by decide)
  unfold unsignedText dotPlace
  dsimp only
  by_cases hplain : exponent ≤ 0 ∧ -6 < exponent + (Nat.toDigits 10 coefficient).length
  · left
    rw [if_pos hplain]
    refine List.mem_append_left _ ?_
    unfold placePoint
    by_cases hneg : exponent + ((Nat.toDigits 10 coefficient).length : ℤ) ≤ 0
    · rw [if_pos hneg]
      simp
    · rw [if_neg hneg, if_neg (by omega)]
      simp
  · right
    rw [if_neg hplain]
    refine List.mem_append_right _ ?_
    rw [exponentText, if_neg (by omega)]
    exact List.mem_cons_self

/-- A decimal without an exponent is printed as an integer with its sign. -/
lemma decimalText_zero (negative : Bool) (coefficient : ℕ) :
    decimalText negative coefficient 0 =
      (if negative then ['-'] else []) ++ Nat.toDigits 10 coefficient := by
  have hlength : 0 < (Nat.toDigits 10 coefficient).length :=
    List.length_pos_iff.mpr Nat.toDigits_ne_nil
  have hplace : dotPlace 0 (0 + (Nat.toDigits 10 coefficient).length) =
      (Nat.toDigits 10 coefficient).length := by
    rw [dotPlace, if_pos (by omega), zero_add]
  have hunsigned : unsignedText coefficient 0 = Nat.toDigits 10 coefficient := by
    unfold unsignedText
    dsimp only
    rw [hplace, zero_add, sub_self, placePoint, if_neg (by omega), if_pos (by omega)]
    simp [exponentText]
  rw [decimalText, hunsigned]

lemma readInt_signed (negative : Bool) (coefficient : ℕ) :
    readInt ((if negative then ['-'] else []) ++ Nat.toDigits 10 coefficient) =
      some (if negative then -(coefficient : ℤ) else coefficient) := by
  cases negative with
  | true => simp [readInt, isWholePart_toDigits, natOfDigits_toDigits]
  | false => exact readInt_printInt (Int.ofNat coefficient)

lemma signed_eq_minus_zero {negative : Bool} {coefficient : ℕ} :
    (if negative then ['-'] else []) ++ Nat.toDigits 10 coefficient = ['-', '0'] ↔
      negative = true ∧ coefficient = 0 := by
  constructor
  · intro h
    cases negative with
    | true =>
        have hread := natOfDigits_toDigits coefficient
        have hdigits : Nat.toDigits 10 coefficient = ['0'] := (List.cons.inj h).2
        rw [hdigits] at hread
        exact ⟨rfl, hread.symm⟩
    | false => exact absurd h (toDigits_ne_minus coefficient ['0'])
  · rintro ⟨rfl, rfl⟩
    rfl

lemma readableInt_neg (n : ℤ) : readableInt (-n) = readableInt n := by
  rw [Bool.eq_iff_iff, readableInt_iff, readableInt_iff, Int.natAbs_neg]

/-- A number is safe if its text is read as what prints as that text. -/
lemma Number.safe_iff_chars {n : Number} : n.Safe ↔
    ∃ cs, n.chars = some cs ∧ cs ≠ ['-', '0'] ∧ ∀ i, readInt cs = some i →
      readableInt i = true := by
  match n with
  | .int i =>
      have hread := readInt_printInt i
      constructor
      · intro hreadable
        refine ⟨printInt i, if_pos hreadable, ?_, fun j hj => ?_⟩
        · intro hprint
          rw [hprint] at hread
          obtain rfl : 0 = i := Option.some.inj hread
          exact absurd hprint (by decide)
        · obtain rfl := Option.some.inj (hread.symm.trans hj)
          exact hreadable
      · rintro ⟨cs, hcs, -⟩
        simp only [Number.chars, Option.ite_none_right_eq_some] at hcs
        exact hcs.1
  | .exact literal => simp [Number.Safe, Number.chars]
  | .decimal (.finite negative coefficient exponent) =>
      have hchars : (Number.decimal (.finite negative coefficient exponent)).chars =
          some (decimalText negative coefficient exponent) := rfl
      simp only [hchars, Option.some.injEq, exists_eq_left', Number.Safe]
      by_cases hzero : exponent = 0
      · subst hzero
        rw [decimalText_zero, Ne, signed_eq_minus_zero, readInt_signed]
        simp only [forall_const, Option.some.injEq, forall_eq']
        cases negative with
        | true => simp [readableInt_neg]
        | false => simp
      · have hnone := readInt_decimalText negative coefficient hzero
        refine iff_of_true (fun h => absurd h hzero) ⟨fun htext => ?_, fun i hi => ?_⟩
        · rw [htext] at hnone
          exact absurd hnone (by decide)
        · rw [hnone] at hi
          cases hi
  | .decimal (.nonfinite _) => simp [Number.Safe, Number.chars]
  | .float x =>
      have hnone := x.readInt_text
      refine iff_of_true trivial ⟨x.text, rfl, fun htext => ?_, fun i hi => ?_⟩
      · rw [htext] at hnone
        exact absurd hnone (by decide)
      · rw [hnone] at hi
        cases hi

/-- A safe number survives the round trip, and no other does. -/
lemma Number.safe_iff {n : Number} : n.Safe ↔
    ∃ t m, n.token = some t ∧ Number.ofToken t = some m ∧ m.token = some t := by
  rw [Number.safe_iff_chars]
  constructor
  · rintro ⟨cs, hcs, hzero, hreadable⟩
    obtain ⟨t, ht, rfl⟩ := Number.exists_token hcs
    obtain ⟨m, hm⟩ := Option.isSome_iff_exists.mp (Number.isSome_ofToken.mpr hreadable)
    exact ⟨t, m, ht, hm, (Number.token_ofToken hm).mpr hzero⟩
  · rintro ⟨t, m, ht, hm, hback⟩
    exact ⟨t.chars, Number.token_eq_some.mp ht, (Number.token_ofToken hm).mp hback,
      Number.isSome_ofToken.mp (Option.isSome_iff_exists.mpr ⟨m, hm⟩)⟩

/-- A token is read as the number it denotes. -/
lemma Number.value?_ofToken {t : Token} {m : Number} (h : Number.ofToken t = some m) :
    m.value? = tokenValue t.chars := by
  unfold Number.ofToken at h
  split at h
  · rename_i i hi
    split_ifs at h
    rw [← Option.some.inj h, tokenValue_of_readInt hi]
    rfl
  · rw [← Option.some.inj h]
    rfl

/-- What is read back is the same number. -/
lemma Number.value?_readBack {n m : Number} (hexact : n.IsExact) (h : n.readBack = some m) :
    m.value?.isSome = true ∧ m.value? = n.value? := by
  obtain ⟨t, ht, hm⟩ := Option.bind_eq_some_iff.mp h
  have hvalue : n.value? = tokenValue t.chars := by
    have hchars := Number.token_eq_some.mp ht
    unfold Number.chars at hchars
    split at hchars
    · split_ifs at hchars
      rw [← Option.some.inj hchars, tokenValue_of_readInt (readInt_printInt _)]
      rfl
    · rw [← Option.some.inj hchars]
      rfl
    · rw [← Option.some.inj hchars, tokenValue_decimalText]
      rfl
    · cases hchars
    · exact hexact.elim
  have hsome : (tokenValue t.chars).isSome = true := by
    rw [← isSome_decimalOf]
    exact (Bool.and_eq_true_iff.mp t.isToken).2
  rw [Number.value?_ofToken hm, hvalue]
  exact ⟨hsome, rfl⟩

/-! ## Text -/

lemma exactJson_eq_some {v : Evidence} {text : String} : exactJson v = some text ↔
    ∃ t, v.sort.convert some Number.token = some t ∧
      String.ofList (t.print textWriter) = text := Option.map_eq_some_iff

/-- What is decoded was scanned, and then its numbers were read. -/
lemma decodeEvidence_eq_some {text : String} {w : Evidence} : decodeEvidence text = some w ↔
    ∃ t, textReader.read text.toList = some t ∧ t.convert some Number.ofToken = some w ∧
      w.keysOk distinct = true := by
  have hlenient : ∀ ks, pyReader.keys ks = true := fun _ => rfl
  have hcommute : ∀ u : Tree (List ℕ) Token,
      (u.convert some Number.ofToken).bind (·.convert text? some) =
        (u.convert text? some).bind (·.convert some Number.ofToken) := by
    intro u
    rw [Tree.convert_bind, Tree.convert_bind]
    simp
  unfold decodeEvidence decodeCodes codesReader textReader
  rw [Reader.read_through hlenient, Reader.read_through hlenient]
  simp only [Option.bind_eq_some_iff, Option.filter_eq_some_iff, Tree.keysOk_true, and_true]
  constructor
  · rintro ⟨codes, ⟨⟨u, hu, hcodes⟩, hdistinct⟩, hw⟩
    have hboth : (u.convert some Number.ofToken).bind (·.convert text? some) = some w := by
      rw [hcodes]
      exact hw
    rw [hcommute] at hboth
    obtain ⟨t, ht, hconvert⟩ := Option.bind_eq_some_iff.mp hboth
    refine ⟨t, ⟨u, hu, ht⟩, hconvert, ?_⟩
    rw [Tree.keysOk_convert keepsKeys_text? codes w hw, hdistinct]
  · rintro ⟨t, ⟨u, hu, ht⟩, hconvert, hdistinct⟩
    have hboth : (u.convert text? some).bind (·.convert some Number.ofToken) = some w := by
      rw [ht]
      exact hconvert
    rw [← hcommute] at hboth
    obtain ⟨codes, hcodes, hw⟩ := Option.bind_eq_some_iff.mp hboth
    refine ⟨codes, ⟨⟨u, hu, hcodes⟩, ?_⟩, hw⟩
    rw [← Tree.keysOk_convert keepsKeys_text? codes w hw, hdistinct]

/-- A printed document decodes to its tokens, read. -/
lemma decodeEvidence_print {t : Tree String Token} (h : t.keysOk distinct = true) :
    decodeEvidence (String.ofList (t.print textWriter)) = t.convert some Number.ofToken := by
  ext w
  rw [decodeEvidence_eq_some, read_print]
  constructor
  · rintro ⟨t', ht', hw, -⟩
    obtain rfl := Option.some.inj ht'
    exact hw
  · intro hw
    exact ⟨t, rfl, hw, by rw [Tree.keysOk_of_convert hw, h]⟩

/-! ## Values -/

mutual
/-- A value whose numbers are replaced by equal ones is equal. -/
lemma Evidence.agree_convert {g : Number → Option Number} : ∀ (v w : Evidence),
    v.convert some g = some w →
    (∀ n ∈ v.numbers, ∀ m, g n = some m → m.value?.isSome = true ∧ m.value? = n.value?) →
    Evidence.agree w v = true
  | .null, w, h, _ => by
      obtain rfl := Option.some.inj h
      rfl
  | .bool b, w, h, _ => by
      obtain rfl := Option.some.inj h
      simp [Evidence.agree, Evidence.num?]
  | .num n, w, h, hvalues => by
      obtain ⟨m, hm, rfl⟩ := Option.map_eq_some_iff.mp h
      obtain ⟨hsome, hvalue⟩ := hvalues n (List.mem_singleton_self n) m hm
      rw [hvalue] at hsome
      simp [Evidence.agree, Evidence.num?, hsome, hvalue]
  | .str s, w, h, _ => by
      obtain rfl := Option.some.inj h
      simp [Evidence.agree]
  | .list vs, w, h, hvalues => by
      obtain ⟨ws, hws, rfl⟩ := Option.map_eq_some_iff.mp h
      exact Evidence.agreeItems_convert vs ws hws hvalues
  | .dict kvs, w, h, hvalues => by
      obtain ⟨kws, hkws, rfl⟩ := Option.map_eq_some_iff.mp h
      exact Evidence.agreeEntries_convert kvs kws hkws hvalues
lemma Evidence.agreeItems_convert {g : Number → Option Number} : ∀ (vs ws : List Evidence),
    Tree.convertItems some g vs = some ws →
    (∀ n ∈ Tree.numbersItems vs, ∀ m, g n = some m →
      m.value?.isSome = true ∧ m.value? = n.value?) → Evidence.agreeItems ws vs = true
  | [], ws, h, _ => by
      obtain rfl := Option.some.inj h
      rfl
  | v :: vs, ws, h, hvalues => by
      simp only [Tree.convertItems, Option.bind_eq_some_iff, Option.map_eq_some_iff] at h
      obtain ⟨w, hw, rest, hrest, rfl⟩ := h
      simp only [Tree.numbersItems, List.forall_mem_append] at hvalues
      exact Bool.and_eq_true_iff.mpr ⟨Evidence.agree_convert v w hw hvalues.1,
        Evidence.agreeItems_convert vs rest hrest hvalues.2⟩
lemma Evidence.agreeEntries_convert {g : Number → Option Number} :
    ∀ (kvs kws : List (String × Evidence)), Tree.convertEntries some g kvs = some kws →
    (∀ n ∈ Tree.numbersEntries kvs, ∀ m, g n = some m →
      m.value?.isSome = true ∧ m.value? = n.value?) → Evidence.agreeEntries kws kvs = true
  | [], kws, h, _ => by
      obtain rfl := Option.some.inj h
      rfl
  | (k, v) :: kvs, kws, h, hvalues => by
      simp only [Tree.convertEntries, Option.bind_some, Option.bind_eq_some_iff,
        Option.map_eq_some_iff] at h
      obtain ⟨w, hw, rest, hrest, rfl⟩ := h
      simp only [Tree.numbersEntries, List.forall_mem_append] at hvalues
      rw [Evidence.agreeEntries, Evidence.agree_convert v w hw hvalues.1,
        Evidence.agreeEntries_convert kvs rest hrest hvalues.2]
      simp
end

/-- `exact_json` takes the value, `decode_exact` reads back an equal one, with every number an
integer or its literal, and that prints as the same text. -/
def RoundTrips (v : Evidence) : Prop :=
  ∃ text w, exactJson v = some text ∧ decodeEvidence text = some w ∧
    v.sort.convert some Number.readBack = some w ∧ w.eq v = true ∧ exactJson w = some text

/-- Numbers are read back from the tokens they are printed as. -/
lemma convert_readBack (v : Evidence) : v.convert some Number.readBack =
    (v.convert some Number.token).bind (·.convert some Number.ofToken) := by
  rw [Tree.convert_bind]
  rfl

/-- The text of a value in order is that of its tokens. -/
lemma exactJson_inOrder {w : Evidence} (h : w.keysOk inOrder = true) {t : Tree String Token} :
    exactJson w = some (String.ofList (t.print textWriter)) ↔
      w.convert some Number.token = some t := by
  rw [exactJson_eq_some, w.sort_of_inOrder h]
  constructor
  · rintro ⟨t', ht', htext⟩
    rw [ht', print_injective htext]
  · exact fun ht => ⟨t, ht, rfl⟩

/-- What is read from a token prints as the token for each number of a document. -/
lemma convert_token_iff {t : Tree String Token} {w : Evidence}
    (hw : t.convert some Number.ofToken = some w) : w.convert some Number.token = some t ↔
      ∀ n ∈ t.numbers, (Number.ofToken n).bind Number.token = some n := by
  have hboth : (t.convert some Number.ofToken).bind (·.convert some Number.token) =
      w.convert some Number.token := by
    rw [hw]
    rfl
  rw [Tree.convert_bind] at hboth
  rw [← hboth]
  exact Tree.convert_eq_self t

/-- What a value is decoded to from its text. -/
lemma decode_exactJson {v : Evidence} {text : String} (h : exactJson v = some text) :
    decodeEvidence text = v.sort.convert some Number.readBack := by
  obtain ⟨t, ht, rfl⟩ := exactJson_eq_some.mp h
  have hdistinct := v.sort.distinct_of_inOrder v.inOrder_sort
  rw [decodeEvidence_print (by rw [Tree.keysOk_of_convert ht, hdistinct]), convert_readBack, ht]
  rfl

/-- A value that is read back prints as before if its numbers are safe, and only then. -/
lemma reprints_iff {v : Evidence} (hkeys : v.keysOk distinct = true) :
    (∃ text w, exactJson v = some text ∧ v.sort.convert some Number.readBack = some w ∧
      exactJson w = some text) ↔ ∀ n ∈ v.numbers, n.Safe := by
  constructor
  · rintro ⟨text, w, htext, hread, hback⟩ n hn
    obtain ⟨t, ht, rfl⟩ := exactJson_eq_some.mp htext
    have hworder : w.keysOk inOrder = true := by
      rw [Tree.keysOk_of_convert hread, v.inOrder_sort]
    rw [convert_readBack, ht] at hread
    have hsurvive := (convert_token_iff hread).mp ((exactJson_inOrder hworder).mp hback)
    obtain ⟨token, htoken, hprint⟩ :=
      Tree.exists_of_mem_numbers ht ((Tree.mem_numbers_sort v hkeys).mpr hn)
    obtain ⟨m, hm, hmtoken⟩ := Option.bind_eq_some_iff.mp (hsurvive token htoken)
    exact Number.safe_iff.mpr ⟨token, m, hprint, hm, hmtoken⟩
  · intro hsafe
    have hsorted : ∀ n ∈ v.sort.numbers, n.Safe := fun n hn =>
      hsafe n ((Tree.mem_numbers_sort v hkeys).mp hn)
    obtain ⟨t, ht⟩ : ∃ t, v.sort.convert some Number.token = some t := by
      rw [← Option.isSome_iff_exists, Tree.isSome_convert, List.all_eq_true]
      intro n hn
      obtain ⟨token, m, htoken, -⟩ := Number.safe_iff.mp (hsorted n hn)
      exact Option.isSome_iff_exists.mpr ⟨token, htoken⟩
    have hsurvive : ∀ n ∈ t.numbers, (Number.ofToken n).bind Number.token = some n := by
      intro token htoken
      obtain ⟨n, hn, hprint⟩ := Tree.exists_of_mem_numbers_convert ht htoken
      obtain ⟨token', m, htoken', hm, hmtoken⟩ := Number.safe_iff.mp (hsorted n hn)
      obtain rfl := Option.some.inj (hprint.symm.trans htoken')
      rw [hm]
      exact hmtoken
    obtain ⟨w, hw⟩ : ∃ w, t.convert some Number.ofToken = some w := by
      rw [← Option.isSome_iff_exists, Tree.isSome_convert, List.all_eq_true]
      intro token htoken
      obtain ⟨m, hm, -⟩ := Option.bind_eq_some_iff.mp (hsurvive token htoken)
      exact Option.isSome_iff_exists.mpr ⟨m, hm⟩
    have hworder : w.keysOk inOrder = true := by
      rw [Tree.keysOk_of_convert hw, Tree.keysOk_of_convert ht, v.inOrder_sort]
    refine ⟨_, w, exactJson_eq_some.mpr ⟨t, ht, rfl⟩, ?_, ?_⟩
    · rw [convert_readBack, ht]
      exact hw
    · exact (exactJson_inOrder hworder).mpr ((convert_token_iff hw).mpr hsurvive)

/-- A value survives the round trip if its numbers do, and only then. -/
lemma roundTrips_iff {v : Evidence} (hkeys : v.keysOk distinct = true)
    (hexact : ∀ n ∈ v.numbers, n.IsExact) : RoundTrips v ↔ ∀ n ∈ v.numbers, n.Safe := by
  rw [← reprints_iff hkeys]
  constructor
  · rintro ⟨text, w, htext, -, hread, -, hback⟩
    exact ⟨text, w, htext, hread, hback⟩
  · rintro ⟨text, w, htext, hread, hback⟩
    have hworder : w.keysOk inOrder = true := by
      rw [Tree.keysOk_of_convert hread, v.inOrder_sort]
    refine ⟨text, w, htext, (decode_exactJson htext).trans hread, hread, ?_, hback⟩
    rw [Evidence.eq, w.sort_of_inOrder hworder]
    exact Evidence.agree_convert v.sort w hread fun n hn m hm =>
      Number.value?_readBack (hexact n ((Tree.mem_numbers_sort v hkeys).mp hn)) hm

lemma Number.readBack_int {n : ℤ} (h : readableInt n = true) :
    (Number.int n).readBack = some (.int n) := by
  have hchars : (Number.int n).chars = some (printInt n) := if_pos h
  obtain ⟨t, ht, htext⟩ := Number.exists_token hchars
  rw [Number.readBack, ht, Option.bind_some, Number.ofToken, htext, readInt_printInt]
  exact if_pos h

/-- A number that was read is safe, and is read back as itself. -/
lemma Number.safe_of_ofToken {t : Token} {m : Number} (h : Number.ofToken t = some m) :
    m.Safe ∧ m.IsExact ∧ m.readBack = some m := by
  unfold Number.ofToken at h
  split at h
  · split_ifs at h with hreadable
    obtain rfl := Option.some.inj h
    exact ⟨hreadable, trivial, Number.readBack_int hreadable⟩
  · rename_i hnone
    obtain rfl := Option.some.inj h
    refine ⟨⟨?_, fun j hj => ?_⟩, trivial, ?_⟩
    · intro hzero
      rw [hzero] at hnone
      exact absurd hnone (by decide)
    · rw [hnone] at hj
      cases hj
    · have htoken : (Number.exact t).token = some t := t.token?_chars
      rw [Number.readBack, htoken, Option.bind_some, Number.ofToken, hnone]

/-- The numbers of a decoded value. -/
lemma numbers_of_decode {text : String} {w : Evidence} (h : decodeEvidence text = some w) :
    ∀ n ∈ w.numbers, n.Safe ∧ n.IsExact ∧ n.readBack = some n := by
  obtain ⟨t, -, hw, -⟩ := decodeEvidence_eq_some.mp h
  intro m hm
  obtain ⟨token, -, hread⟩ := Tree.exists_of_mem_numbers_convert hw hm
  exact Number.safe_of_ofToken hread

/-- What is decoded is written and decoded again to the same value, with its keys in order. -/
lemma decode_again {text : String} {w : Evidence} (h : decodeEvidence text = some w) :
    ∃ text', exactJson w = some text' ∧ decodeEvidence text' = some w.sort ∧
      Evidence.eq w.sort w = true := by
  obtain ⟨-, -, -, hdistinct⟩ := decodeEvidence_eq_some.mp h
  have hnumbers := numbers_of_decode h
  obtain ⟨text', w', htext, hdecode, hback, heq, -⟩ :=
    (roundTrips_iff hdistinct fun n hn => (hnumbers n hn).2.1).mpr fun n hn => (hnumbers n hn).1
  have hself : w.sort.convert some Number.readBack = some w.sort :=
    (Tree.convert_eq_self w.sort).mpr fun n hn =>
      (hnumbers n ((Tree.mem_numbers_sort w hdistinct).mp hn)).2.2
  obtain rfl := Option.some.inj (hself.symm.trans hback)
  exact ⟨text', htext, hdecode, heq⟩

/-- A document that repeats a key is not decoded. -/
lemma decodeCodes_of_repeated {text : String} {t : Tree (List ℕ) Token}
    (h : pyReader.read text.toList = some t) (hkeys : t.keysOk distinct = false) :
    decodeCodes text = none := by
  rw [decodeCodes, codesReader, Reader.read_through fun _ => rfl, h, Option.bind_some,
    Option.filter_eq_none_iff]
  intro u hu
  rw [Tree.keysOk_of_convert hu, hkeys]
  exact Bool.false_ne_true

/-- A value survives the round trip if and only if its numbers are safe.  Equal texts come from
values with equal literals, what is decoded survives the round trip, and a document that repeats
a key is rejected. -/
theorem exactJson_law (v : Evidence) (hkeys : v.keysOk distinct = true)
    (hexact : ∀ n ∈ v.numbers, n.IsExact) :
    (RoundTrips v ↔ ∀ n ∈ v.numbers, n.Safe) ∧
      (∀ (v' : Evidence) (text : String), exactJson v = some text → exactJson v' = some text →
        v.sort.convert some Number.token = v'.sort.convert some Number.token) ∧
      (∀ (text : String) (w : Evidence), decodeEvidence text = some w →
        ∃ text', exactJson w = some text' ∧ decodeEvidence text' = some w.sort ∧
          Evidence.eq w.sort w = true) ∧
      ∀ (text : String) (t : Tree (List ℕ) Token), pyReader.read text.toList = some t →
        t.keysOk distinct = false → decodeCodes text = none := by
  refine ⟨roundTrips_iff hkeys hexact, ?_, fun _ _ => decode_again, fun _ _ =>
    decodeCodes_of_repeated⟩
  intro v' text h h'
  obtain ⟨t, ht, htext⟩ := exactJson_eq_some.mp h
  obtain ⟨t', ht', htext'⟩ := exactJson_eq_some.mp h'
  obtain rfl := print_injective (htext.trans htext'.symm)
  rw [ht, ht']

/-- `Decimal("-0")` -/
def minusZero : Evidence := .num (.decimal (.finite true 0 0))

/-- `Decimal("-0")` is a finite decimal that does not survive the round trip. -/
theorem not_roundTrips_minusZero : minusZero.keysOk distinct = true ∧
    (∀ n ∈ minusZero.numbers, n.IsExact) ∧ ¬ RoundTrips minusZero := by
  have hkeys : minusZero.keysOk distinct = true := rfl
  have hexact : ∀ n ∈ minusZero.numbers, n.IsExact := by
    intro n hn
    obtain rfl := List.mem_singleton.mp hn
    trivial
  refine ⟨hkeys, hexact, fun h => ?_⟩
  have hsafe := (roundTrips_iff hkeys hexact).mp h _ (List.mem_singleton_self _)
  exact (hsafe rfl).1 ⟨rfl, rfl⟩

/-- The text `-0` comes back as `0`. -/
example : (decodeEvidence "-0").bind exactJson = some "0" := by decide +kernel

/-- `\x7b"scores": [7, Decimal("0.50")], "ok": True\x7d` -/
def sampleEvidence : Evidence :=
  .dict [("scores", .list [.num (.int 7), .num (.decimal (.finite false 50 (-2)))]),
    ("ok", .bool true)]

theorem exactJson_law_sample : RoundTrips sampleEvidence := by
  have hnumbers : sampleEvidence.numbers = [.int 7, .decimal (.finite false 50 (-2))] := rfl
  refine ((exactJson_law sampleEvidence (by decide) ?_).1).mpr ?_
  · rw [hnumbers]
    intro n hn
    rcases List.mem_pair.mp hn with rfl | rfl <;> trivial
  · rw [hnumbers]
    intro n hn
    rcases List.mem_pair.mp hn with rfl | rfl
    · exact readableInt_iff.mpr (lt_of_lt_of_le (by decide) (Nat.le_self_pow (by decide) 10))
    · intro h
      exact absurd h (by decide)

end CivicGate.Rq6
