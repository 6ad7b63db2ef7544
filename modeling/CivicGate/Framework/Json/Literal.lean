import CivicGate.Framework.Json.Printing
import Mathlib.Data.List.Induction
import Mathlib.Data.List.TakeWhile

/-!
# JSON as Python scans it

`pyReader` is the grammar of `json.loads` with nothing decided about values yet: a string is the
list of its code points, lone surrogates included, and a number is its token.  `textReader` takes
the documents without lone surrogates, whose strings are `String`s.
-/

namespace CivicGate

/-! ## Strings -/

/-- A scalar value, as a character. -/
def scalar? (n : ℕ) : Option Char :=
  if n < 55296 ∨ 57344 ≤ n ∧ n < 1114112 then some (Char.ofNat n) else none

/-- The text of code points without lone surrogates. -/
def text? (codes : List ℕ) : Option String := (codes.mapM scalar?).map String.ofList

lemma toNat_of_scalar? {n : ℕ} {c : Char} (h : scalar? n = some c) : c.toNat = n := by
  unfold scalar? at h
  split_ifs at h with hvalid
  obtain rfl := Option.some.inj h
  have hscalar : n.isValidChar := by
    rcases hvalid with hlow | hhigh
    · exact Or.inl hlow
    · exact Or.inr ⟨by omega, hhigh.2⟩
  rw [Char.ofNat, dif_pos hscalar]
  rfl

lemma codes_of_mapM_scalar? {codes : List ℕ} {cs : List Char}
    (h : codes.mapM scalar? = some cs) : codes = cs.map Char.toNat := by
  induction codes generalizing cs with
  | nil =>
      obtain rfl := Option.some.inj h
      rfl
  | cons n codes ih =>
      simp only [List.mapM_cons, Option.bind_eq_bind, Option.bind_eq_some_iff, Option.pure_def,
        Option.some.injEq] at h
      obtain ⟨c, hc, rest, hrest, rfl⟩ := h
      rw [List.map_cons, toNat_of_scalar? hc, ih hrest]

/-- A text has the code points it was made of. -/
lemma codes_of_text? {codes : List ℕ} {s : String} (h : text? codes = some s) :
    codes = s.toList.map Char.toNat := by
  obtain ⟨cs, hcs, rfl⟩ := Option.map_eq_some_iff.mp h
  rw [codes_of_mapM_scalar? hcs, String.toList_ofList]

lemma scalar?_toNat (c : Char) : scalar? c.toNat = some c := by
  have hvalid : c.toNat < 55296 ∨ 57343 < c.toNat ∧ c.toNat < 1114112 := c.valid
  rw [scalar?, if_pos (by omega), Char.ofNat_toNat]

lemma scalar?_of_scalar {n : ℕ} (h : n < 55296 ∨ 57344 ≤ n ∧ n < 1114112) :
    scalar? n = some (Char.ofNat n) := if_pos h

lemma scalar?_of_surrogate {n : ℕ} (h : 55296 ≤ n ∧ n < 57344) : scalar? n = none :=
  if_neg (by omega)

lemma hexValue_lt {c : Char} {n : ℕ} (h : hexValue c = some n) : n < 16 := by
  unfold hexValue at h
  split_ifs at h with hdigit hlower hupper
  · obtain rfl := Option.some.inj h
    have hle : c.toNat ≤ '9'.toNat := (Char.isDigit_iff_toNat.mp hdigit).2
    have : '9'.toNat = 57 := rfl
    omega
  · obtain rfl := Option.some.inj h
    have hle : c.toNat ≤ 'f'.toNat := hlower.2
    have : 'f'.toNat = 102 := rfl
    omega
  · obtain rfl := Option.some.inj h
    have hle : c.toNat ≤ 'F'.toNat := hupper.2
    have : 'F'.toNat = 70 := rfl
    omega

lemma codeUnit_lt {a b c d : Char} {n : ℕ} (h : codeUnit a b c d = some n) : n < 65536 := by
  simp only [codeUnit, Option.bind_eq_bind, Option.bind_eq_some_iff, Option.pure_def,
    Option.some.injEq] at h
  obtain ⟨a, ha, b, hb, c, hc, d, hd, rfl⟩ := h
  have := hexValue_lt ha
  have := hexValue_lt hb
  have := hexValue_lt hc
  have := hexValue_lt hd
  omega

/-- The characters of a scanned string without lone surrogates. -/
def scalars (x : Option (List ℕ × List Char)) : Option (List Char × List Char) :=
  x.bind fun p => (p.1.mapM scalar?).map (·, p.2)

lemma scalars_consCode (n : ℕ) (x : Option (List ℕ × List Char)) :
    scalars (x.map (consCode n)) =
      (scalar? n).bind fun c => (scalars x).map (Prod.map (c :: ·) id) := by
  cases x with
  | none => cases scalar? n <;> rfl
  | some p =>
      cases h : scalar? n with
      | none => simp [scalars, consCode, h]
      | some c => cases h' : p.1.mapM scalar? <;> simp [scalars, consCode, h, h']

/-- Strings without lone surrogates are those of the scan that have none. -/
lemma parseStrTail_eq (cs : List Char) : parseStrTail cs = scalars (scanString cs) := by
  fun_induction scanString cs with
  | case1 => rw [parseStrTail]; rfl
  | case2 rest => rw [parseStrTail]; rfl
  | case3 a b c d rest h => rw [parseStrTail, h]; rfl
  | case4 a b c d rest n h hn ih =>
      have hlt := codeUnit_lt h
      rw [parseStrTail, h, scalars_consCode]
      dsimp only
      by_cases hscalar : n < 55296 ∨ 57344 ≤ n
      · rw [if_pos hscalar, scalar?_of_scalar (by omega), ih]
        rfl
      · -- A low surrogate that follows no high one.
        rw [if_neg hscalar, scalar?_of_surrogate (by omega)]
        split
        · split
          · rfl
          · rw [if_neg (by omega)]
            rfl
        · rfl
  | case5 a b c d n h hn a' b' c' d' rest h' =>
      rw [parseStrTail, h]
      dsimp only
      rw [if_neg (by omega)]
      simp only [h']
      rfl
  | case6 a b c d n h hn a' b' c' d' rest m h' hm ih =>
      rw [parseStrTail, h]
      dsimp only
      rw [if_neg (by omega)]
      simp only [h']
      rw [if_pos (by omega), scalars_consCode, scalar?_of_scalar (by omega), ih]
      rfl
  | case7 a b c d n h hn a' b' c' d' rest m h' hm ih =>
      rw [parseStrTail, h]
      dsimp only
      rw [if_neg (by omega)]
      simp only [h']
      rw [if_neg (by omega), scalars_consCode, scalar?_of_surrogate (by omega)]
      rfl
  | case8 a b c d =>
      rename_i hrest ih
      rename codeUnit a b c d = some _ => h
      rw [parseStrTail, h]
      dsimp only
      rw [if_neg (by omega), scalars_consCode, scalar?_of_surrogate (by omega)]
      split
      · exact absurd rfl (hrest _ _ _ _ _)
      · rfl
  | case9 c rest hu h =>
      rw [parseStrTail, h]
      · rfl
      · exact hu
  | case10 c rest hu c' h ih =>
      rw [parseStrTail, h, scalars_consCode, scalar?_toNat, ih]
      · rfl
      · exact hu
  | case11 c rest hquote hu hescape h =>
      rw [parseStrTail, if_pos h]
      · rfl
      · exact hquote
      · exact hu
      · exact hescape
  | case12 c rest hquote hu hescape h ih =>
      rw [parseStrTail, if_neg h, scalars_consCode, scalar?_toNat, ih]
      · rfl
      · exact hquote
      · exact hu
      · exact hescape

/-- What is scanned is determined by the characters up to the closing quote. -/
def ScansTo (used : List Char) (codes : List ℕ) : Prop :=
  used ≠ [] ∧ ∀ rest, scanString (used ++ rest) = some (codes, rest)

/-- A scanned string is no escape that another could follow on. -/
lemma ScansTo.not_unit {used rest more : List Char} {codes : List ℕ} {a b c d : Char}
    (h : ScansTo used codes) (heq : used ++ rest = '\\' :: 'u' :: a :: b :: c :: d :: more) :
    ∃ more', used = '\\' :: 'u' :: a :: b :: c :: d :: more' := by
  have hend := h.2 []
  rw [List.append_nil] at hend
  match used, h.1 with
  | [_], _ =>
      obtain ⟨rfl, -⟩ := List.cons.inj heq
      simp [scanString] at hend
  | [_, _], _ | [_, _, _], _ | [_, _, _, _], _ | [_, _, _, _, _], _ =>
      simp only [List.cons_append, List.nil_append, List.cons.injEq] at heq
      obtain ⟨rfl, rfl, -⟩ := heq
      simp [scanString, simpleEscape] at hend
  | _ :: _ :: _ :: _ :: _ :: _ :: more', _ =>
      simp only [List.cons_append, List.cons.injEq] at heq
      obtain ⟨rfl, rfl, rfl, rfl, rfl, rfl, -⟩ := heq
      exact ⟨more', rfl⟩

/-- A scan ends at its closing quote, whatever follows. -/
lemma scanString_local {cs rest : List Char} {codes : List ℕ}
    (h : scanString cs = some (codes, rest)) :
    ∃ used, cs = used ++ rest ∧ ScansTo used codes := by
  fun_induction scanString cs generalizing codes rest with
  | case1 => cases h
  | case2 more =>
      obtain ⟨rfl, rfl⟩ := Prod.mk.inj (Option.some.inj h)
      exact ⟨['"'], rfl, List.cons_ne_nil _ _, fun rest' => by simp [scanString]⟩
  | case3 => cases h
  | case4 a b c d more n hunit hn ih =>
      obtain ⟨⟨codes', rest'⟩, hscan, hcons⟩ := Option.map_eq_some_iff.mp h
      obtain ⟨rfl, rfl⟩ := Prod.mk.inj hcons
      obtain ⟨used, rfl, hne, hused⟩ := ih hscan
      refine ⟨'\\' :: 'u' :: a :: b :: c :: d :: used, rfl, List.cons_ne_nil _ _, fun rest => ?_⟩
      simp only [List.cons_append]
      rw [scanString, hunit]
      simp only [if_pos hn, hused, Option.map_some]
      rfl
  | case5 => cases h
  | case6 a b c d n hunit hn a' b' c' d' more m hunit' hm ih =>
      obtain ⟨⟨codes', rest'⟩, hscan, hcons⟩ := Option.map_eq_some_iff.mp h
      obtain ⟨rfl, rfl⟩ := Prod.mk.inj hcons
      obtain ⟨used, rfl, hne, hused⟩ := ih hscan
      refine ⟨'\\' :: 'u' :: a :: b :: c :: d :: '\\' :: 'u' :: a' :: b' :: c' :: d' :: used, rfl,
        List.cons_ne_nil _ _, fun rest => ?_⟩
      simp only [List.cons_append]
      rw [scanString, hunit]
      simp only [if_neg hn, hunit', if_pos hm, hused, Option.map_some]
      rfl
  | case7 a b c d n hunit hn a' b' c' d' more m hunit' hm ih =>
      obtain ⟨⟨codes', rest'⟩, hscan, hcons⟩ := Option.map_eq_some_iff.mp h
      obtain ⟨rfl, rfl⟩ := Prod.mk.inj hcons
      obtain ⟨used, heq, hused⟩ := ih hscan
      obtain ⟨used', rfl⟩ := hused.not_unit heq.symm
      refine ⟨'\\' :: 'u' :: a :: b :: c :: d :: '\\' :: 'u' :: a' :: b' :: c' :: d' :: used', ?_,
        List.cons_ne_nil _ _, fun rest => ?_⟩
      · rw [heq]
        rfl
      · have hrest := hused.2 rest
        simp only [List.cons_append] at hrest ⊢
        rw [scanString, hunit]
        simp only [if_neg hn, hunit', if_neg hm, hrest, Option.map_some]
        rfl
  | case8 a b c d =>
      rename_i hmore ih
      rename codeUnit a b c d = some _ => hunit
      rename ¬(_ < 55296 ∨ _) => hn
      obtain ⟨⟨codes', rest'⟩, hscan, hcons⟩ := Option.map_eq_some_iff.mp h
      obtain ⟨rfl, rfl⟩ := Prod.mk.inj hcons
      obtain ⟨used, rfl, hused⟩ := ih hscan
      refine ⟨'\\' :: 'u' :: a :: b :: c :: d :: used, rfl, List.cons_ne_nil _ _, fun rest => ?_⟩
      rw [List.cons_append, List.cons_append, List.cons_append, List.cons_append,
        List.cons_append, List.cons_append, scanString, hunit]
      simp only [if_neg hn]
      split
      · rename_i heq
        obtain ⟨used', rfl⟩ := hused.not_unit heq
        exact (hmore _ _ _ _ _ rfl).elim
      · rw [hused.2 rest]
        rfl
  | case9 => cases h
  | case10 c more hu c' hescape ih =>
      obtain ⟨⟨codes', rest'⟩, hscan, hcons⟩ := Option.map_eq_some_iff.mp h
      obtain ⟨rfl, rfl⟩ := Prod.mk.inj hcons
      obtain ⟨used, rfl, hne, hused⟩ := ih hscan
      have hne : c ≠ 'u' := by
        rintro rfl
        have hnone : simpleEscape 'u' = none := by decide
        rw [hnone] at hescape
        cases hescape
      refine ⟨'\\' :: c :: used, rfl, List.cons_ne_nil _ _, fun rest => ?_⟩
      rw [List.cons_append, List.cons_append, scanString, hescape]
      · simp only [hused, Option.map_some]
        rfl
      · exact fun _ _ _ _ _ h => absurd h hne
  | case11 => cases h
  | case12 c more hquote hu hbackslash hctl ih =>
      obtain ⟨⟨codes', rest'⟩, hscan, hcons⟩ := Option.map_eq_some_iff.mp h
      obtain ⟨rfl, rfl⟩ := Prod.mk.inj hcons
      obtain ⟨used, rfl, hne, hused⟩ := ih hscan
      have hslash : c ≠ '\\' := by
        intro hc
        obtain ⟨d, used, rfl⟩ := List.exists_cons_of_ne_nil hne
        exact hbackslash _ _ hc rfl
      refine ⟨c :: used, rfl, List.cons_ne_nil _ _, fun rest => ?_⟩
      rw [List.cons_append, scanString, if_neg hctl, hused]
      · rfl
      · exact hquote
      · exact fun _ _ _ _ _ h => absurd h hslash
      · exact fun _ _ h => absurd h hslash

/-! ## Numbers -/

/-- The characters are a JSON number. -/
def isNumberToken (cs : List Char) : Bool := cs.all isNumberChar && (decimalOf cs).isSome

/-- A JSON number as it is written. -/
structure Token where
  chars : List Char
  isToken : isNumberToken chars = true
  deriving DecidableEq

/-- The token with these characters. -/
def token? (cs : List Char) : Option Token :=
  if h : isNumberToken cs = true then some ⟨cs, h⟩ else none

lemma Token.token?_chars (t : Token) : token? t.chars = some t := dif_pos t.isToken

lemma Token.numberChars (t : Token) : ∀ c ∈ t.chars, isNumberChar c = true :=
  List.all_eq_true.mp (Bool.and_eq_true_iff.mp t.isToken).1

lemma Token.chars_ne_nil (t : Token) : t.chars ≠ [] := by
  intro hnil
  have h := t.isToken
  rw [hnil] at h
  exact absurd h (by decide)

/-! ### Integers -/

lemma digitChar_sub {c : Char} (h : c.isDigit = true) :
    c.toNat - 48 < 10 ∧ Nat.digitChar (c.toNat - 48) = c := by
  obtain ⟨hlow, hhigh⟩ := Char.isDigit_iff_toNat.mp h
  have hzero : '0'.toNat = 48 := rfl
  have hnine : '9'.toNat = 57 := rfl
  obtain ⟨k, hk, hc⟩ : ∃ k, k < 10 ∧ c.toNat = 48 + k := ⟨c.toNat - 48, by omega, by omega⟩
  refine ⟨by omega, ?_⟩
  have hchar : c = Char.ofNat (48 + k) := by rw [← hc, Char.ofNat_toNat]
  rw [hc, Nat.add_sub_cancel_left, hchar]
  clear hchar hc
  interval_cases k <;> rfl

lemma natOfDigits_concat (ds : List Char) (c : Char) :
    natOfDigits (ds ++ [c]) = 10 * natOfDigits ds + (c.toNat - 48) := by
  rw [natOfDigits, Nat.ofDigitChars_append, Nat.ofDigitChars_cons, Nat.ofDigitChars_nil]
  rfl

/-- Digits without a leading zero are the digits of their number. -/
lemma toDigits_of_digits {ds : List Char} (hall : ∀ c ∈ ds, c.isDigit = true) (hne : ds ≠ [])
    (hhead : ds.head? ≠ some '0') :
    0 < natOfDigits ds ∧ Nat.toDigits 10 (natOfDigits ds) = ds := by
  induction ds using List.reverseRecOn with
  | nil => exact absurd rfl hne
  | append_singleton ds c ih =>
      obtain ⟨hlt, hchar⟩ := digitChar_sub (hall c (by simp))
      rw [natOfDigits_concat]
      rcases List.eq_nil_or_concat ds with rfl | ⟨init, d, hds⟩
      · have hnil : natOfDigits [] = 0 := rfl
        have hpos : c.toNat - 48 ≠ 0 := by
          intro h0
          rw [h0] at hchar
          exact hhead (by simp [← hchar])
        rw [hnil, Nat.mul_zero, Nat.zero_add, Nat.toDigits_of_lt_base hlt, hchar]
        exact ⟨Nat.pos_of_ne_zero hpos, rfl⟩
      · have hne' : ds ≠ [] := by simp [hds]
        have hhead' : ds.head? ≠ some '0' := by
          rwa [List.head?_append_of_ne_nil _ hne'] at hhead
        obtain ⟨hpos, hdigits⟩ := ih (fun c hc => hall c (List.mem_append_left _ hc)) hne' hhead'
        refine ⟨by omega, ?_⟩
        rw [← Nat.toDigits_append_toDigits (by decide) hpos hlt, hdigits,
          Nat.toDigits_of_lt_base hlt, hchar]

lemma toDigits_natOfDigits {ds : List Char} (h : isWholePart ds = true) :
    Nat.toDigits 10 (natOfDigits ds) = ds := by
  simp only [isWholePart, Bool.and_eq_true, Bool.or_eq_true, decide_eq_true_eq] at h
  rcases h.2 with rfl | hdigits
  · decide
  · exact (toDigits_of_digits (List.all_eq_true.mp h.1) hdigits.1 hdigits.2).2

/-- An integer is written in one way, but for `-0`. -/
lemma printInt_of_readInt {cs : List Char} {n : ℤ} (h : readInt cs = some n) :
    printInt n = cs ↔ cs ≠ ['-', '0'] := by
  unfold readInt at h
  split at h
  · rename_i ds
    split_ifs at h with hwhole
    obtain rfl := Option.some.inj h
    have hdigits := toDigits_natOfDigits hwhole
    cases hvalue : natOfDigits ds with
    | zero =>
        rw [hvalue] at hdigits
        obtain rfl : ['0'] = ds := hdigits
        decide
    | succ k =>
        rw [hvalue] at hdigits
        refine iff_of_true (congrArg ('-' :: ·) hdigits) ?_
        rintro heq
        obtain rfl : ds = ['0'] := (List.cons.inj heq).2
        cases hvalue
  · rename_i hminus
    split_ifs at h with hwhole
    obtain rfl := Option.some.inj h
    exact iff_of_true (toDigits_natOfDigits hwhole) (hminus _)

lemma unsignedDecimal_whole {ds : List Char} (h : isWholePart ds = true) :
    unsignedDecimal ds = some (natOfDigits ds : ℚ) := by
  have hall : ∀ c ∈ ds, c.isDigit = true :=
    List.all_eq_true.mp (Bool.and_eq_true_iff.mp h).1
  have htake : ds.takeWhile Char.isDigit = ds := List.takeWhile_eq_self_iff.mpr hall
  have hdrop : ds.dropWhile Char.isDigit = [] := List.dropWhile_eq_nil_iff.mpr hall
  rw [unsignedDecimal, htake, hdrop]
  simp [h, exponentOf, scaleBy]

/-- The number of a token. -/
def tokenValue (cs : List Char) : Option ℚ :=
  (decimalOf cs).map fun d => if d.1 then -d.2 else d.2

lemma tokenValue_of_readInt {cs : List Char} {n : ℤ} (h : readInt cs = some n) :
    tokenValue cs = some (n : ℚ) := by
  unfold readInt at h
  split at h
  · split_ifs at h with hwhole
    obtain rfl := Option.some.inj h
    rw [tokenValue, decimalOf, unsignedDecimal_whole hwhole]
    simp
  · rename_i hminus
    split_ifs at h with hwhole
    obtain rfl := Option.some.inj h
    rw [tokenValue, decimalOf, unsignedDecimal_whole hwhole]
    · simp
    · exact hminus

lemma isSome_decimalOf {cs : List Char} : (decimalOf cs).isSome = (tokenValue cs).isSome := by
  rw [tokenValue, Option.isSome_map]

/-! ## Readers -/

/-- What `json.loads` scans, before it makes anything of it. -/
def pyReader : Reader (List ℕ) Token where
  string := scanString
  number := token?
  keys _ := true
  number_nil := by decide
  string_local := by
    intro cs codes rest h
    obtain ⟨used, hcs, hne, hlocal⟩ := scanString_local h
    exact ⟨used, hne, hcs, hlocal⟩

/-- The documents without lone surrogates. -/
def textReader : Reader String Token := pyReader.through text? some fun _ => true

lemma textReader_string (cs : List Char) :
    textReader.string cs = (parseStrTail cs).map fun p => (String.ofList p.1, p.2) := by
  rw [parseStrTail_eq]
  show ((scanString cs).bind fun p => (text? p.1).map (·, p.2)) = _
  cases scanString cs with
  | none => rfl
  | some p => cases h : p.1.mapM scalar? <;> simp [scalars, text?, h]

/-- How Python writes strings, with numbers as they are. -/
def textWriter : Writer textReader where
  string s := printStrTail false s.toList
  number := Token.chars
  string_read := by
    intro s rest
    rw [textReader_string, parseStrTail_printStrTail]
    simp
  number_ne_nil := Token.chars_ne_nil
  number_chars := Token.numberChars
  number_read t := by
    show (token? t.chars).bind some = some t
    rw [t.token?_chars]
    rfl

/-- Texts are distinct if their code points are. -/
lemma keepsKeys_text? : KeepsKeys text? distinct distinct := by
  intro ks ks' h
  have hcodes : ks = ks'.map fun s => s.toList.map Char.toNat := by
    induction ks generalizing ks' with
    | nil =>
        obtain rfl := Option.some.inj h
        rfl
    | cons codes ks ih =>
        simp only [List.mapM_cons, Option.bind_eq_bind, Option.bind_eq_some_iff, Option.pure_def,
          Option.some.injEq] at h
        obtain ⟨s, hs, rest, hrest, rfl⟩ := h
        rw [List.map_cons, codes_of_text? hs, ih rest hrest]
  have hinj : Function.Injective fun s : String => s.toList.map Char.toNat := by
    intro s s' heq
    have hchars : Function.Injective Char.toNat := fun c d hcd => by
      rw [← Char.ofNat_toNat c, ← Char.ofNat_toNat d, hcd]
    exact String.toList_injective (List.map_injective_iff.mpr hchars heq)
  rw [Bool.eq_iff_iff, distinct_iff, distinct_iff, hcodes, List.nodup_map_iff hinj]

/-- A printed document is scanned back. -/
lemma read_print (t : Tree String Token) :
    textReader.read (String.ofList (t.print textWriter)).toList = some t := by
  rw [String.toList_ofList]
  exact textWriter.read_print t.keysOk_true

lemma print_injective {t t' : Tree String Token}
    (h : String.ofList (t.print textWriter) = String.ofList (t'.print textWriter)) : t = t' :=
  textWriter.print_injective t.keysOk_true t'.keysOk_true (String.ofList_injective h)

end CivicGate
