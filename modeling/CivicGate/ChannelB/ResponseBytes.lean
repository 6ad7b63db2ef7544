import CivicGate.ChannelB.Money
import CivicGate.Framework.Json.Literal
import CivicGate.Framework.Json.Same

/-!
# Canonical response bytes

`canonical_response_bytes` of `channel_b/faa_money_v1.py` replaces each award amount by its text and
prints the object with its keys in order.  What it prints determines the object up to the spelling
of the amounts, and is read back if no integer outside them is too long for `integer_token`
(`canonicalText_law`).

Bytes are the text they encode; a text with a lone surrogate is not encoded and is no `String`.
-/

namespace CivicGate.ChannelB

/-- `dict(row) | amount_text of its "Award Amount"` -/
def canonicalRow : Value → Except String Value
  | .dict row => do
    let amount ← (row.lookup "Award Amount").elim (.error "FAA amount missing") .ok
    let text ← amountText amount
    return .dict (replaceKey row "Award Amount" (.str text))
  | _ => .error "FAA amount missing"

/-- The entries of a response and its rows. -/
def responseRows : Value → Except String (List (String × Value) × List Value)
  | .dict fields =>
    match fields.lookup "results" with
    | some (.list rows) => .ok (fields, rows)
    | _ => .error "FAA response object required"
  | _ => .error "FAA response object required"

/-- `canonical_obj` -/
def canonicalObject (obj : Value) : Except String Value := do
  let response ← responseRows obj
  let rows ← response.2.mapM canonicalRow
  return .dict (replaceKey response.1 "results" (.list rows))

/-- `_plain_json` takes the number. -/
def Number.isPlain : Number → Bool
  | .int _ => true
  | _ => false

/-- What `json.dumps` prints for a plain number. -/
def Number.token : Number → Option Token
  | .int n => if readableInt n then token? (printInt n) else none
  | _ => none

/-- `canonical_response_bytes(obj)` -/
def canonicalText (obj : Value) : Except String String := do
  let canonical ← canonicalObject obj
  ensure (canonical.numbers.all Number.isPlain) "Unsupported FAA canonical JSON value"
  (canonical.sort.convert some Number.token).elim
    (.error "Exceeds the limit (4300 digits) for integer string conversion")
    fun t => .ok (String.ofList (t.print textWriter))

/-- `integer_token` for integers, `decimal_token` for other numbers. -/
def Number.ofToken (literal : Token) : Option Number :=
  match readInt literal.chars with
  | some n => if literal.chars.length ≤ 96 then some (.int n) else none
  | none => (decimalToken literal.chars).toOption.map .decimal

/-- `json.loads` with these parsers, for documents that repeat no key. -/
def parseResponse (text : String) : Option Value :=
  ((textReader.read text.toList).bind (·.convert some Number.ofToken)).filter (·.keysOk distinct)

/-! ## What is accepted -/

lemma canonicalRow_eq_ok {v w : Value} : canonicalRow v = .ok w ↔ ∃ row amount text,
    v = .dict row ∧ row.lookup "Award Amount" = some amount ∧ amountText amount = .ok text ∧
      w = .dict (replaceKey row "Award Amount" (.str text)) := by
  cases v with
  | dict row =>
      simp only [canonicalRow, Except.bind_eq_ok, Except.pure_eq_ok, Tree.dict.injEq]
      constructor
      · rintro ⟨amount, hamount, text, htext, rfl⟩
        cases hlookup : row.lookup "Award Amount" with
        | none =>
            rw [hlookup] at hamount
            cases hamount
        | some amount' =>
            rw [hlookup] at hamount
            obtain rfl := Except.ok.inj hamount
            exact ⟨row, amount', text, rfl, hlookup, htext, rfl⟩
      · rintro ⟨_, amount, text, rfl, hlookup, htext, rfl⟩
        exact ⟨amount, by rw [hlookup]; rfl, text, htext, rfl⟩
  | _ => simp [canonicalRow]

lemma responseRows_eq_ok {obj : Value} {fields : List (String × Value)} {rows : List Value} :
    responseRows obj = .ok (fields, rows) ↔
      obj = .dict fields ∧ fields.lookup "results" = some (.list rows) := by
  unfold responseRows
  constructor
  · intro h
    split at h
    · split at h
      · rename_i hlookup
        obtain ⟨rfl, rfl⟩ := Prod.mk.inj (Except.ok.inj h)
        exact ⟨rfl, hlookup⟩
      · cases h
    · cases h
  · rintro ⟨rfl, hlookup⟩
    simp only [hlookup]

lemma canonicalObject_eq_ok {obj c : Value} : canonicalObject obj = .ok c ↔
    ∃ fields rows rows', obj = .dict fields ∧ fields.lookup "results" = some (.list rows) ∧
      List.Forall₂ (fun v w => canonicalRow v = .ok w) rows rows' ∧
        c = .dict (replaceKey fields "results" (.list rows')) := by
  simp only [canonicalObject, Except.bind_eq_ok, Except.pure_eq_ok, Except.mapM_eq_ok,
    Prod.exists, responseRows_eq_ok]
  constructor
  · rintro ⟨fields, rows, ⟨hobj, hlookup⟩, rows', hrows, rfl⟩
    exact ⟨fields, rows, rows', hobj, hlookup, hrows, rfl⟩
  · rintro ⟨fields, rows, rows', hobj, hlookup, hrows, rfl⟩
    exact ⟨fields, rows, ⟨hobj, hlookup⟩, rows', hrows, rfl⟩

lemma canonicalText_eq_ok {obj : Value} {text : String} : canonicalText obj = .ok text ↔
    ∃ c t, canonicalObject obj = .ok c ∧ c.numbers.all Number.isPlain = true ∧
      c.sort.convert some Number.token = some t ∧ text = String.ofList (t.print textWriter) := by
  simp only [canonicalText, Except.bind_eq_ok, ensure_eq_ok]
  constructor
  · rintro ⟨c, hc, _, hplain, h⟩
    cases ht : c.sort.convert some Number.token with
    | none =>
        rw [ht] at h
        cases h
    | some t =>
        rw [ht] at h
        exact ⟨c, t, hc, hplain, ht, (Except.ok.inj h).symm⟩
  · rintro ⟨c, t, hc, hplain, ht, rfl⟩
    exact ⟨c, hc, (), hplain, by rw [ht]; rfl⟩

/-! ## Responses up to amounts -/

/-- Rows that are the same but for their award amounts, which `R` relates. -/
def SameRow (R : Value → Value → Prop) (v v' : Value) : Prop :=
  ∃ row row' amount amount', v = .dict row ∧ v' = .dict row' ∧
    row.lookup "Award Amount" = some amount ∧ row'.lookup "Award Amount" = some amount' ∧
      R amount amount' ∧
        ∀ k, k ≠ "Award Amount" → Option.Rel Tree.Same (row.lookup k) (row'.lookup k)

/-- Responses that are the same but for the award amounts of their rows, which `R` relates. -/
def SameResponse (R : Value → Value → Prop) (obj obj' : Value) : Prop :=
  ∃ fields fields' rows rows', obj = .dict fields ∧ obj' = .dict fields' ∧
    fields.lookup "results" = some (.list rows) ∧ fields'.lookup "results" = some (.list rows') ∧
      List.Forall₂ (SameRow R) rows rows' ∧
        ∀ k, k ≠ "results" → Option.Rel Tree.Same (fields.lookup k) (fields'.lookup k)

/-- The second amount is the text of the first, and their numbers are equal. -/
def IsTextOf (amount amount' : Value) : Prop :=
  ∃ text, amount' = .str text ∧ amountText amount = .ok text ∧
    amountValue amount' = amountValue amount

/-- The amounts are one number. -/
def EqualAmounts (amount amount' : Value) : Prop := amountValue amount = amountValue amount'

/-- Canonical rows are the same if and only if their rows are, up to equal amounts. -/
lemma same_canonicalRow_iff {v v' w w' : Value} (h : canonicalRow v = .ok w)
    (h' : canonicalRow v' = .ok w') (hkeys : v.keysOk distinct = true)
    (hkeys' : v'.keysOk distinct = true) : w.Same w' ↔ SameRow EqualAmounts v v' := by
  obtain ⟨row, amount, text, rfl, hamount, htext, rfl⟩ := canonicalRow_eq_ok.mp h
  obtain ⟨row', amount', text', rfl, hamount', htext', rfl⟩ := canonicalRow_eq_ok.mp h'
  have hnodup := nodup_of_keysOk hkeys
  have hnodup' := nodup_of_keysOk hkeys'
  rw [Tree.same_dict_iff (nodup_replaceKey hnodup) (nodup_replaceKey hnodup')]
  constructor
  · intro hall
    refine ⟨row, row', amount, amount', rfl, rfl, hamount, hamount', ?_, fun k hk => ?_⟩
    · have hrel := hall "Award Amount"
      rw [lookup_replaceKey_self (mem_keys_of_lookup hamount),
        lookup_replaceKey_self (mem_keys_of_lookup hamount')] at hrel
      cases hrel with
      | some hsame => exact (amountText_eq_iff htext htext').mp (Tree.str.inj hsame)
    · have hrel := hall k
      rwa [lookup_replaceKey_of_ne hk, lookup_replaceKey_of_ne hk] at hrel
  · rintro ⟨_, _, a, a', hrow, hrow', ha, ha', hequal, hall⟩ k
    obtain rfl := Tree.dict.inj hrow
    obtain rfl := Tree.dict.inj hrow'
    obtain rfl := Option.some.inj (hamount.symm.trans ha)
    obtain rfl := Option.some.inj (hamount'.symm.trans ha')
    by_cases hk : k = "Award Amount"
    · rw [hk, lookup_replaceKey_self (mem_keys_of_lookup hamount),
        lookup_replaceKey_self (mem_keys_of_lookup hamount'),
        (amountText_eq_iff htext htext').mpr hequal]
      exact .some (Tree.Same.refl _)
    · rw [lookup_replaceKey_of_ne hk, lookup_replaceKey_of_ne hk]
      exact hall k hk

/-- A canonical row has its row's entries but for the amount, which is the text. -/
lemma sameRow_canonicalRow {v w : Value} (h : canonicalRow v = .ok w)
    (hkeys : v.keysOk distinct = true) : SameRow IsTextOf v w.sort := by
  obtain ⟨row, amount, text, rfl, hamount, htext, rfl⟩ := canonicalRow_eq_ok.mp h
  have hnodup : ((replaceKey row "Award Amount" (.str text)).map Prod.fst).Nodup :=
    nodup_replaceKey (nodup_of_keysOk hkeys)
  refine ⟨row, _, amount, .str text, rfl, rfl, hamount, ?_, ⟨text, rfl, htext, ?_⟩, fun k hk => ?_⟩
  · rw [Tree.lookup_sortEntries hnodup, lookup_replaceKey_self (mem_keys_of_lookup hamount)]
    rfl
  · exact (amountText_eq_iff (amountText_again htext).2 htext).mp rfl
  · rw [Tree.lookup_sortEntries hnodup, lookup_replaceKey_of_ne hk]
    cases row.lookup k with
    | none => exact .none
    | some u => exact .some (Tree.same_sort u)

/-- A canonical row is canonical. -/
lemma canonicalRow_sort {v w : Value} (h : canonicalRow v = .ok w)
    (hkeys : v.keysOk distinct = true) : canonicalRow w.sort = .ok w.sort := by
  obtain ⟨row, amount, text, rfl, hamount, htext, rfl⟩ := canonicalRow_eq_ok.mp h
  have hnodup : ((replaceKey row "Award Amount" (.str text)).map Prod.fst).Nodup :=
    nodup_replaceKey (nodup_of_keysOk hkeys)
  have hlookup : (Tree.sortEntries (replaceKey row "Award Amount" (.str text))).lookup
      "Award Amount" = some (.str text) := by
    rw [Tree.lookup_sortEntries hnodup, lookup_replaceKey_self (mem_keys_of_lookup hamount)]
    rfl
  refine canonicalRow_eq_ok.mpr ⟨_, _, text, rfl, hlookup, (amountText_again htext).2, ?_⟩
  rw [replaceKey_of_lookup (inOrder_iff.mp (Tree.inOrder_sortEntries _).1).nodup hlookup]
  rfl

/-! ## Objects -/

lemma keysOk_results {fields : List (String × Value)} {rows : List Value}
    (hkeys : (Tree.dict fields).keysOk distinct = true)
    (h : fields.lookup "results" = some (.list rows)) : ∀ row ∈ rows, row.keysOk distinct = true :=
  Tree.keysOkItems_iff.mp (keysOk_of_lookup hkeys h)

/-- Canonical objects are the same if and only if their objects are, up to equal amounts. -/
lemma same_canonicalObject_iff {obj obj' c c' : Value} (h : canonicalObject obj = .ok c)
    (h' : canonicalObject obj' = .ok c') (hkeys : obj.keysOk distinct = true)
    (hkeys' : obj'.keysOk distinct = true) : c.Same c' ↔ SameResponse EqualAmounts obj obj' := by
  obtain ⟨fields, rows, canon, rfl, hrows, hcanon, rfl⟩ := canonicalObject_eq_ok.mp h
  obtain ⟨fields', rows', canon', rfl, hrows', hcanon', rfl⟩ := canonicalObject_eq_ok.mp h'
  have hsame : List.Forall₂ Tree.Same canon canon' ↔
      List.Forall₂ (SameRow EqualAmounts) rows rows' := by
    have hall := keysOk_results hkeys hrows
    have hall' := keysOk_results hkeys' hrows'
    clear hrows hrows' h h' hkeys hkeys'
    induction hcanon generalizing rows' canon' with
    | nil =>
        cases hcanon' with
        | nil => simp
        | cons _ _ => exact iff_of_false (fun hrel => nomatch hrel) fun hrel => nomatch hrel
    | cons hrow _ ih =>
        cases hcanon' with
        | nil => exact iff_of_false (fun hrel => nomatch hrel) fun hrel => nomatch hrel
        | cons hrow' htail' =>
            rw [List.forall₂_cons, List.forall₂_cons, same_canonicalRow_iff hrow hrow'
              (hall _ List.mem_cons_self) (hall' _ List.mem_cons_self)]
            exact and_congr Iff.rfl (ih _ _ htail'
              (fun row hmem => hall row (List.mem_cons_of_mem _ hmem))
              fun row hmem => hall' row (List.mem_cons_of_mem _ hmem))
  rw [Tree.same_dict_iff (nodup_replaceKey (nodup_of_keysOk hkeys))
    (nodup_replaceKey (nodup_of_keysOk hkeys'))]
  constructor
  · intro hall
    refine ⟨fields, fields', rows, rows', rfl, rfl, hrows, hrows', ?_, fun k hk => ?_⟩
    · have hrel := hall "results"
      rw [lookup_replaceKey_self (mem_keys_of_lookup hrows),
        lookup_replaceKey_self (mem_keys_of_lookup hrows')] at hrel
      cases hrel with
      | some hlist => exact hsame.mp (Tree.same_list_iff.mp hlist)
    · have hrel := hall k
      rwa [lookup_replaceKey_of_ne hk, lookup_replaceKey_of_ne hk] at hrel
  · rintro ⟨_, _, rs, rs', hfields, hfields', hrs, hrs', hrel, hall⟩ k
    obtain rfl := Tree.dict.inj hfields
    obtain rfl := Tree.dict.inj hfields'
    obtain rfl := Tree.list.inj (Option.some.inj (hrows.symm.trans hrs))
    obtain rfl := Tree.list.inj (Option.some.inj (hrows'.symm.trans hrs'))
    by_cases hk : k = "results"
    · rw [hk, lookup_replaceKey_self (mem_keys_of_lookup hrows),
        lookup_replaceKey_self (mem_keys_of_lookup hrows')]
      exact .some (Tree.same_list_iff.mpr (hsame.mpr hrel))
    · rw [lookup_replaceKey_of_ne hk, lookup_replaceKey_of_ne hk]
      exact hall k hk

/-- A canonical object is its object but for the amounts, which are their texts, and is canonical
itself. -/
lemma canonicalObject_sort {obj c : Value} (h : canonicalObject obj = .ok c)
    (hkeys : obj.keysOk distinct = true) :
    SameResponse IsTextOf obj c.sort ∧ canonicalObject c.sort = .ok c.sort := by
  obtain ⟨fields, rows, canon, rfl, hrows, hcanon, rfl⟩ := canonicalObject_eq_ok.mp h
  have hall := keysOk_results hkeys hrows
  have hnodup := nodup_replaceKey (a := Tree.list canon) (k := "results") (nodup_of_keysOk hkeys)
  have hlookup : (Tree.sortEntries (replaceKey fields "results" (.list canon))).lookup "results" =
      some (.list (canon.map Tree.sort)) := by
    rw [Tree.lookup_sortEntries hnodup, lookup_replaceKey_self (mem_keys_of_lookup hrows),
      Option.map_some, Tree.sort, Tree.sortItems_eq_map]
  refine ⟨⟨fields, _, rows, canon.map Tree.sort, rfl, rfl, hrows, hlookup, ?_, fun k hk => ?_⟩,
    canonicalObject_eq_ok.mpr ⟨_, _, canon.map Tree.sort, rfl, hlookup, ?_, ?_⟩⟩
  · clear h hrows hkeys hnodup hlookup
    induction hcanon with
    | nil => exact .nil
    | cons hrow _ ih =>
        exact .cons (sameRow_canonicalRow hrow (hall _ List.mem_cons_self))
          (ih fun row hmem => hall row (List.mem_cons_of_mem _ hmem))
  · rw [Tree.lookup_sortEntries hnodup, lookup_replaceKey_of_ne hk]
    cases fields.lookup k with
    | none => exact .none
    | some u => exact .some (Tree.same_sort u)
  · clear h hrows hkeys hnodup hlookup
    induction hcanon with
    | nil => exact .nil
    | cons hrow _ ih =>
        exact .cons (canonicalRow_sort hrow (hall _ List.mem_cons_self))
          (ih fun row hmem => hall row (List.mem_cons_of_mem _ hmem))
  · rw [replaceKey_of_lookup (inOrder_iff.mp (Tree.inOrder_sortEntries _).1).nodup hlookup]
    rfl

lemma keysOk_canonicalObject {obj c : Value} (h : canonicalObject obj = .ok c)
    (hkeys : obj.keysOk distinct = true) : c.keysOk distinct = true := by
  obtain ⟨fields, rows, canon, rfl, hrows, hcanon, rfl⟩ := canonicalObject_eq_ok.mp h
  have hall := keysOk_results hkeys hrows
  refine keysOk_replaceKey hkeys (Tree.keysOkItems_iff.mpr ?_)
  clear h hrows hkeys
  induction hcanon with
  | nil => exact fun _ hmem => nomatch hmem
  | cons hrow _ ih =>
      obtain ⟨row, amount, text, rfl, -, -, rfl⟩ := canonicalRow_eq_ok.mp hrow
      rintro w (_ | ⟨_, hmem⟩)
      · exact keysOk_replaceKey (hall _ List.mem_cons_self) rfl
      · exact ih (fun row' hmem' => hall row' (List.mem_cons_of_mem _ hmem')) w hmem

/-! ## Numbers outside the amounts -/

/-- The numbers of a row but for its amount. -/
def rowNumbers : Value → List Number
  | .dict row => row.flatMap fun e => if e.1 = "Award Amount" then [] else e.2.numbers
  | _ => []

/-- The numbers of rows but for their amounts. -/
def resultNumbers : Value → List Number
  | .list rows => rows.flatMap rowNumbers
  | _ => []

/-- The numbers of a response but for its award amounts. -/
def otherNumbers : Value → List Number
  | .dict fields =>
    fields.flatMap fun e => if e.1 = "results" then resultNumbers e.2 else e.2.numbers
  | _ => []

/-- An integer that `integer_token` takes. -/
def Number.isShort : Number → Bool
  | .int n => (printInt n).length ≤ 96
  | _ => true

/-- No integer but an award amount prints with more than 96 characters. -/
def ShortIntegers (obj : Value) : Prop := ∀ n ∈ otherNumbers obj, n.isShort = true

lemma mem_numbers_replaceKey {fields : List (String × Value)} {k : String} {v : Value}
    {n : Number} : n ∈ (Tree.dict (replaceKey fields k v)).numbers ↔
      ∃ e ∈ fields, n ∈ (if e.1 = k then v else e.2).numbers := by
  rw [Tree.numbers, Tree.mem_numbersEntries, replaceKey]
  constructor
  · rintro ⟨_, hmem, hn⟩
    obtain ⟨e, he, rfl⟩ := List.mem_map.mp hmem
    exact ⟨e, he, hn⟩
  · rintro ⟨e, he, hn⟩
    exact ⟨_, List.mem_map_of_mem he, hn⟩

lemma mem_numbers_canonicalRow {v w : Value} (h : canonicalRow v = .ok w) {n : Number} :
    n ∈ w.numbers ↔ n ∈ rowNumbers v := by
  obtain ⟨row, amount, text, rfl, -, -, rfl⟩ := canonicalRow_eq_ok.mp h
  rw [mem_numbers_replaceKey, rowNumbers, List.mem_flatMap]
  refine exists_congr fun e => and_congr_right fun _ => ?_
  split_ifs <;> simp [Tree.numbers]

lemma mem_numbers_canonicalObject {obj c : Value} (h : canonicalObject obj = .ok c)
    (hkeys : obj.keysOk distinct = true) {n : Number} :
    n ∈ c.numbers ↔ n ∈ otherNumbers obj := by
  obtain ⟨fields, rows, canon, rfl, hrows, hcanon, rfl⟩ := canonicalObject_eq_ok.mp h
  have hitems : n ∈ (Tree.list canon).numbers ↔ n ∈ rows.flatMap rowNumbers := by
    rw [Tree.numbers, Tree.mem_numbersItems, List.mem_flatMap]
    clear h hrows hkeys
    induction hcanon with
    | nil => simp
    | cons hrow _ ih => simp only [List.exists_mem_cons_iff, mem_numbers_canonicalRow hrow, ih]
  rw [mem_numbers_replaceKey, otherNumbers, List.mem_flatMap]
  refine exists_congr fun e => and_congr_right fun he => ?_
  obtain ⟨k, v⟩ := e
  by_cases hk : k = "results"
  · subst hk
    obtain rfl := Option.some.inj ((lookup_of_mem (nodup_of_keysOk hkeys) he).symm.trans hrows)
    rw [if_pos rfl, if_pos rfl, hitems, resultNumbers]
  · rw [if_neg hk, if_neg hk]

/-! ## Texts -/

lemma Number.exists_token {n : ℤ} (h : readableInt n = true) :
    ∃ t, (Number.int n).token = some t ∧ t.chars = printInt n := by
  have htoken : isNumberToken (printInt n) = true := isNumberToken_printInt n
  exact ⟨⟨printInt n, htoken⟩, (if_pos h).trans (dif_pos htoken), rfl⟩

lemma Number.token_eq_some {n : Number} {t : Token} (h : n.token = some t) :
    ∃ k, n = .int k ∧ t.chars = printInt k := by
  cases n with
  | int k =>
      have hreadable : readableInt k = true := by
        by_contra hnot
        rw [Number.token, if_neg hnot] at h
        cases h
      obtain ⟨t', ht', hchars⟩ := Number.exists_token hreadable
      obtain rfl := Option.some.inj (ht'.symm.trans h)
      exact ⟨k, rfl, hchars⟩
  | _ => cases h

/-- The integer a token is. -/
def intOf (t : Token) : Option Number := (readInt t.chars).map .int

/-- A number that prints is its token's integer, which `integer_token` takes where it is short. -/
lemma Number.readings {n : Number} {t : Token} (h : n.token = some t) :
    intOf t = some n ∧ Number.ofToken t = if n.isShort then some n else none := by
  obtain ⟨k, rfl, hchars⟩ := Number.token_eq_some h
  rw [intOf, Number.ofToken, hchars, readInt_printInt]
  simp [Number.isShort]

/-- What is printed determines the document, its numbers being integers. -/
lemma convert_intOf {c : Value} {t : Tree String Token}
    (h : c.convert some Number.token = some t) : t.convert some intOf = some c := by
  have hboth := c.convert_bind some Number.token some intOf
  rw [h, Option.bind_some] at hboth
  rw [hboth]
  refine (Tree.convert_eq_self c).mpr fun n hn => ?_
  have hsome : n.token.isSome = true := by
    have hall := Tree.isSome_convert (g := Number.token) c
    rw [h] at hall
    exact List.all_eq_true.mp hall.symm n hn
  obtain ⟨token, htoken⟩ := Option.isSome_iff_exists.mp hsome
  rw [htoken]
  exact (Number.readings htoken).1

/-- The canonical text is read back if the integers outside the amounts are short. -/
lemma parseResponse_text {obj c : Value} {t : Tree String Token} (h : canonicalObject obj = .ok c)
    (hkeys : obj.keysOk distinct = true) (ht : c.sort.convert some Number.token = some t) :
    (ShortIntegers obj → parseResponse (String.ofList (t.print textWriter)) = some c.sort) ∧
      (¬ ShortIntegers obj → parseResponse (String.ofList (t.print textWriter)) = none) := by
  have hmem : ∀ n, n ∈ c.sort.numbers ↔ n ∈ otherNumbers obj := fun n =>
    (c.mem_numbers_sort (keysOk_canonicalObject h hkeys)).trans (mem_numbers_canonicalObject h hkeys)
  have htokens : ∀ n ∈ c.sort.numbers, n.token.bind Number.ofToken =
      if n.isShort then some n else none := by
    intro n hn
    have hall := Tree.isSome_convert (g := Number.token) c.sort
    rw [ht] at hall
    obtain ⟨token, htoken⟩ := Option.isSome_iff_exists.mp (List.all_eq_true.mp hall.symm n hn)
    rw [htoken]
    exact (Number.readings htoken).2
  have hconvert : t.convert some Number.ofToken =
      c.sort.convert some fun n => n.token.bind Number.ofToken := by
    have hboth := c.sort.convert_bind some Number.token some Number.ofToken
    rw [ht, Option.bind_some] at hboth
    exact hboth
  rw [parseResponse, read_print, Option.bind_some, hconvert]
  constructor
  · intro hshort
    have hself : (c.sort.convert some fun n => n.token.bind Number.ofToken) = some c.sort :=
      (Tree.convert_eq_self c.sort).mpr fun n hn => by
        rw [htokens n hn, if_pos (hshort n ((hmem n).mp hn))]
    rw [hself, Option.filter_some, if_pos (Tree.distinct_of_inOrder _ c.inOrder_sort)]
  · intro hlong
    obtain ⟨n, hn, hshort⟩ : ∃ n ∈ otherNumbers obj, ¬ n.isShort = true := by
      by_contra hall
      push Not at hall
      exact hlong hall
    have hn' := (hmem n).mpr hn
    have hnone : (c.sort.convert some fun n => n.token.bind Number.ofToken) = none := by
      rw [← Option.not_isSome_iff_eq_none, Tree.isSome_convert]
      intro hall
      have hread := List.all_eq_true.mp hall n hn'
      rw [htokens n hn', if_neg hshort] at hread
      cases hread
    rw [hnone]
    rfl

/-- The canonical text of an object is its canonical text once more, where it is read back. -/
lemma canonicalText_sort {obj c : Value} {t : Tree String Token} (h : canonicalObject obj = .ok c)
    (hkeys : obj.keysOk distinct = true) (hplain : c.numbers.all Number.isPlain = true)
    (ht : c.sort.convert some Number.token = some t) :
    canonicalText c.sort = .ok (String.ofList (t.print textWriter)) := by
  refine canonicalText_eq_ok.mpr ⟨c.sort, t, (canonicalObject_sort h hkeys).2, ?_, ?_, rfl⟩
  · refine List.all_eq_true.mpr fun n hn => ?_
    exact List.all_eq_true.mp hplain n
      ((c.mem_numbers_sort (keysOk_canonicalObject h hkeys)).mp hn)
  · rw [c.sort.sort_of_inOrder c.inOrder_sort]
    exact ht

/-- The canonical text of an accepted object is read back if and only if the integers outside its
amounts are short, and then as the object with the texts of its amounts, which has the same
canonical text; canonical texts are equal if and only if the objects are the same as JSON values
up to equal amounts. -/
theorem canonicalText_law :
    (∀ (obj : Value) (text : String), obj.keysOk distinct = true → canonicalText obj = .ok text →
      ((∃ back, parseResponse text = some back) ↔ ShortIntegers obj) ∧
      ∀ back, parseResponse text = some back →
        canonicalText back = .ok text ∧ SameResponse IsTextOf obj back) ∧
    (∀ (obj obj' : Value) (text text' : String), obj.keysOk distinct = true →
      obj'.keysOk distinct = true → canonicalText obj = .ok text → canonicalText obj' = .ok text' →
      (text = text' ↔ SameResponse EqualAmounts obj obj')) := by
  constructor
  · intro obj text hkeys h
    obtain ⟨c, t, hc, hplain, ht, rfl⟩ := canonicalText_eq_ok.mp h
    obtain ⟨hread, hnone⟩ := parseResponse_text hc hkeys ht
    have hback : ∀ back, parseResponse (String.ofList (t.print textWriter)) = some back →
        ShortIntegers obj ∧ back = c.sort := by
      intro back hback
      by_cases hshort : ShortIntegers obj
      · exact ⟨hshort, Option.some.inj (hback.symm.trans (hread hshort))⟩
      · cases hback.symm.trans (hnone hshort)
    refine ⟨⟨fun ⟨back, hsome⟩ => (hback back hsome).1, fun hshort => ⟨_, hread hshort⟩⟩,
      fun back hsome => ?_⟩
    rw [(hback back hsome).2]
    exact ⟨canonicalText_sort hc hkeys hplain ht, (canonicalObject_sort hc hkeys).1⟩
  · intro obj obj' text text' hkeys hkeys' h h'
    obtain ⟨c, t, hc, -, ht, rfl⟩ := canonicalText_eq_ok.mp h
    obtain ⟨c', t', hc', -, ht', rfl⟩ := canonicalText_eq_ok.mp h'
    rw [← same_canonicalObject_iff hc hc' hkeys hkeys']
    constructor
    · intro htext
      obtain rfl := print_injective htext
      have hsame := (convert_intOf ht).symm.trans (convert_intOf ht')
      exact Option.some.inj hsame
    · intro hsame
      have htoken : some t = some t' := by rw [← ht, ← ht', show c.sort = c'.sort from hsame]
      rw [Option.some.inj htoken]

/-- A response with two awards. -/
def sampleResponse (first second : Value) : Value :=
  .dict [("results", .list [.dict [("Award ID", .str "A"), ("Award Amount", first)],
    .dict [("Award Amount", second), ("Award ID", .str "B")]]), ("page", .num (.int 1))]

theorem canonicalText_law_spellings :
    (∃ text back, canonicalText (sampleResponse (.num (.int 15)) (.str "2.50")) = .ok text ∧
      parseResponse text = some back ∧ canonicalText back = .ok text) ∧
    SameResponse EqualAmounts (sampleResponse (.num (.int 15)) (.str "2.50"))
      (sampleResponse (.str "1.5e1") (.num (.decimal (.finite false 25 (-1))))) := by
  have hkeys : (sampleResponse (.num (.int 15)) (.str "2.50")).keysOk distinct = true := by
    decide
  have hkeys' : (sampleResponse (.str "1.5e1") (.num (.decimal (.finite false 25 (-1))))).keysOk
      distinct = true := by decide
  have htext : canonicalText (sampleResponse (.num (.int 15)) (.str "2.50")) =
      .ok "\x7b\"page\":1,\"results\":[\x7b\"Award Amount\":\"15\",\"Award ID\":\"A\"\x7d,\x7b\"Award Amount\":\"2.5\",\"Award ID\":\"B\"\x7d]\x7d" := by
    decide +kernel
  have htext' : canonicalText
      (sampleResponse (.str "1.5e1") (.num (.decimal (.finite false 25 (-1))))) =
      .ok "\x7b\"page\":1,\"results\":[\x7b\"Award Amount\":\"15\",\"Award ID\":\"A\"\x7d,\x7b\"Award Amount\":\"2.5\",\"Award ID\":\"B\"\x7d]\x7d" := by
    decide +kernel
  have hshort : ShortIntegers (sampleResponse (.num (.int 15)) (.str "2.50")) := by
    intro n hn
    have hone : otherNumbers (sampleResponse (.num (.int 15)) (.str "2.50")) = [.int 1] := by
      decide +kernel
    rw [hone, List.mem_singleton] at hn
    rw [hn]
    decide +kernel
  obtain ⟨hread, hback⟩ := canonicalText_law.1 _ _ hkeys htext
  obtain ⟨back, hsome⟩ := hread.mpr hshort
  exact ⟨⟨_, back, htext, hsome, (hback back hsome).1⟩,
    (canonicalText_law.2 _ _ _ _ hkeys hkeys' htext htext').mp rfl⟩

/-- `integer_token` rejects the integer that `canonical_response_bytes` printed. -/
theorem not_readBack_longInteger : ∃ obj text, obj.keysOk distinct = true ∧
    canonicalText obj = .ok text ∧ parseResponse text = none := by
  have hkeys : (Tree.dict [("results", .list []), ("page", .num (Number.int (10 ^ 96)))]).keysOk
      distinct = true := by decide +kernel
  obtain ⟨text, htext⟩ : ∃ text, canonicalText
      (.dict [("results", .list []), ("page", .num (.int (10 ^ 96)))]) = .ok text := by
    have hok : (canonicalText
        (.dict [("results", .list []), ("page", .num (.int (10 ^ 96)))])).isOk = true := by
      decide +kernel
    generalize canonicalText _ = outcome at hok
    cases outcome with
    | error message => cases hok
    | ok text => exact ⟨text, rfl⟩
  obtain ⟨c, t, hc, -, ht, rfl⟩ := canonicalText_eq_ok.mp htext
  refine ⟨_, _, hkeys, htext, (parseResponse_text hc hkeys ht).2 fun hshort => ?_⟩
  have hlong := hshort (.int (10 ^ 96)) (by decide)
  have hdigits : Number.isShort (.int (10 ^ 96)) = false := by decide
  cases hdigits.symm.trans hlong

end CivicGate.ChannelB
