import CivicGate.Framework.Digest
import CivicGate.Rq6.Framing

/-!
# Built cards verify

What `build_card` returns is accepted by `verify_source_link`, and a commitment is met by one
preimage and one card.  Written with `exact_json` and read back with `decode_exact` the card is
accepted exactly if no number of its payload changes on the way, as `-0` does (`card_law`).
-/

namespace CivicGate.Rq6.Crypto

/-! ## What is read back -/

/-- `decode_exact(exact_json(v))` is `w`. -/
def ReadsBack (v w : Evidence) : Prop := v.sort.convert some Number.readBack = some w

lemma readsBack_iff {v w : Evidence} {text : String} (h : exactJson v = some text) :
    decodeEvidence text = some w ↔ ReadsBack v w := by
  rw [decode_exactJson h, ReadsBack]

lemma readsBack_str {s : String} {w : Evidence} (h : ReadsBack (.str s) w) : w = .str s :=
  (Option.some.inj h).symm

lemma ReadsBack.inOrder {v w : Evidence} (h : ReadsBack v w) : w.keysOk inOrder = true := by
  rw [Tree.keysOk_of_convert h, v.inOrder_sort]

lemma ReadsBack.distinct {v w : Evidence} (h : ReadsBack v w) : w.keysOk distinct = true :=
  w.distinct_of_inOrder h.inOrder

section

variable {fields fields' : Fields}

/-- A dictionary is read back key by key. -/
lemma readsBack_dict (h : (fields.map Prod.fst).Nodup) {w : Evidence} :
    ReadsBack (.dict fields) w ↔ ∃ fields', w = .dict fields' ∧
      CivicGate.inOrder (fields'.map Prod.fst) = true ∧
        ∀ k, Option.Rel ReadsBack (fields.lookup k) (fields'.lookup k) :=
  Tree.convert_sort_dict_iff h

lemma lookup_readsBack (h : ∀ k, Option.Rel ReadsBack (fields.lookup k) (fields'.lookup k))
    {k : String} {v : Evidence} (hk : fields.lookup k = some v) :
    ∃ w, fields'.lookup k = some w ∧ ReadsBack v w := by
  have hrel := h k
  rw [hk] at hrel
  exact rel_some_left hrel

lemma hasKeys_readsBack (h : ∀ k, Option.Rel ReadsBack (fields.lookup k) (fields'.lookup k))
    {keys : List String} (hkeys : fields.hasKeys keys = true) : fields'.hasKeys keys = true := by
  rw [hasKeys_iff] at hkeys ⊢
  intro k
  rw [← hkeys k, ← lookup_isSome, ← lookup_isSome]
  have hrel := h k
  cases hk : fields.lookup k with
  | none =>
      rw [hk] at hrel
      cases hk' : fields'.lookup k with
      | none => rfl
      | some w =>
          rw [hk'] at hrel
          cases hrel
  | some v =>
      obtain ⟨w, hw, -⟩ := lookup_readsBack h hk
      rw [hw]
      rfl

/-- Without one of its keys a dictionary is read back without it. -/
lemma readsBack_pop (h : (fields.map Prod.fst).Nodup) (key : String)
    (hback : ReadsBack (.dict fields) (.dict fields')) :
    ReadsBack (.dict (fields.pop key)) (.dict (fields'.pop key)) := by
  obtain ⟨_, heq, horder, hrel⟩ := (readsBack_dict h).mp hback
  obtain rfl := Tree.dict.inj heq
  have hsub : ∀ f : Fields, ((f.pop key).map Prod.fst).Sublist (f.map Prod.fst) := fun f =>
    List.filter_sublist.map _
  refine (readsBack_dict (h.sublist (hsub fields))).mpr ⟨_, rfl, ?_, fun k => ?_⟩
  · exact inOrder_iff.mpr ((inOrder_iff.mp horder).sublist (hsub fields'))
  · by_cases hk : k = key
    · rw [hk, lookup_pop_self, lookup_pop_self]
      exact .none
    · rw [lookup_pop_of_ne hk, lookup_pop_of_ne hk]
      exact hrel k

end

/-! ### The checks of a card -/

lemma int_of_readBack {n : ℤ} {m : Number} (h : (Number.int n).readBack = some m) :
    m = .int n := by
  obtain ⟨t, ht, -⟩ := Option.bind_eq_some_iff.mp h
  have hchars := Number.token_eq_some.mp ht
  simp only [Number.chars, Option.ite_none_right_eq_some] at hchars
  exact (Option.some.inj ((Number.readBack_int hchars.1).symm.trans h)).symm

/-- A number between zero and one is read back as one. -/
lemma unit_of_readBack {n m : Number} (h : n.readBack = some m)
    (hunit : n.value?.any (fun q => 0 ≤ q && q ≤ 1) = true) :
    m.value?.any (fun q => 0 ≤ q && q ≤ 1) = true := by
  by_cases hexact : n.IsExact
  · rw [(Number.value?_readBack hexact h).2]
    exact hunit
  · match n with
    | .int _ | .exact _ | .decimal (.finite ..) => exact absurd trivial hexact
    | .decimal (.nonfinite _) => cases hunit
    | .float x =>
        have hbounds : 0 ≤ x.value ∧ x.value ≤ 1 := by
          simpa [Number.value?] using hunit
        obtain ⟨q, hq, hlow, hhigh⟩ := PyFloat.tokenValue_mem_unit hbounds.1 hbounds.2
        obtain ⟨t, ht, hm⟩ := Option.bind_eq_some_iff.mp h
        have hchars : x.text = t.chars := Option.some.inj (Number.token_eq_some.mp ht)
        rw [Number.value?_ofToken hm, ← hchars, hq]
        simp [hlow, hhigh]

lemma isConfidence_readsBack {v w : Evidence} (h : ReadsBack v w) (hv : isConfidence v = true) :
    isConfidence w = true := by
  cases v with
  | num n =>
      obtain ⟨m, hm, rfl⟩ := Option.map_eq_some_iff.mp h
      exact unit_of_readBack hm hv
  | _ => cases hv

lemma eq_of_isStr {v w : Evidence} (h : ReadsBack v w) (hv : isStr v = true) : w = v := by
  cases v with
  | str s => exact readsBack_str h
  | _ => cases hv

lemma eq_of_isPosition {v w : Evidence} (h : ReadsBack v w) (hv : isPosition v = true) : w = v := by
  match v with
  | .num (.int n) =>
      obtain ⟨m, hm, rfl⟩ := Option.map_eq_some_iff.mp h
      rw [int_of_readBack hm]
  | .num (.exact _) | .num (.decimal _) | .num (.float _) => cases hv
  | .null | .bool _ | .str _ | .list _ | .dict _ => cases hv

lemma eq_of_isFlags {v w : Evidence} (h : ReadsBack v w) (hv : isFlags v = true) : w = v := by
  cases v with
  | list flags =>
      have hflags : ∀ flag ∈ flags, isStr flag = true := by
        intro flag hflag
        have hname := List.all_eq_true.mp hv flag hflag
        cases flag with
        | str s => rfl
        | _ => cases hname
      have horder : (Tree.list flags).keysOk inOrder = true := by
        refine Tree.keysOkItems_iff.mpr fun flag hflag => ?_
        have hstr := hflags flag hflag
        cases flag with
        | str s => rfl
        | _ => cases hstr
      have hself : (Tree.list flags).convert some Number.readBack = some (.list flags) := by
        refine (Tree.convert_eq_self _).mpr fun n hn => ?_
        obtain ⟨flag, hflag, hn⟩ := Tree.mem_numbersItems.mp hn
        have hstr := hflags flag hflag
        cases flag with
        | str s => cases hn
        | _ => cases hstr
      rw [ReadsBack, Tree.sort_of_inOrder _ horder, hself] at h
      exact (Option.some.inj h).symm
  | _ => cases hv

lemma isStr_of_isName {v : Evidence} (h : isName v = true) : isStr v = true := by
  cases v with
  | str s => rfl
  | _ => cases h

lemma isStr_of_isText {text : String} {v : Evidence} (h : isText text v = true) :
    v = .str text := by
  cases v with
  | str s => exact congrArg _ (of_decide_eq_true h)
  | _ => cases h

lemma isStr_of_isBlindAlias {v : Evidence} (h : isBlindAlias v = true) : isStr v = true := by
  cases v with
  | str s => rfl
  | _ => cases h

lemma isStr_of_digestString {v : Evidence} (h : digestString v = .ok ()) : isStr v = true := by
  cases v with
  | str s => rfl
  | _ => cases h

/-! ## What the checks ensure -/

/-- The dictionary has a value of this kind under the key. -/
def Has (fields : Fields) (key : String) (p : Evidence → Bool) : Prop :=
  ∃ v, fields.lookup key = some v ∧ p v = true

lemma require_item_eq_ok {fields : Fields} {key code : String} {p : Evidence → Bool} {u : Unit} :
    (fields.item key >>= fun v => require (p v) code) = .ok u ↔ Has fields key p := by
  simp only [Except.bind_eq_ok, Fields.item_eq_ok, ensure_eq_ok, Has]

/-- A value that is a digest. -/
def isDigestText : Evidence → Bool
  | .str s => isDigest s
  | _ => false

lemma digestString_eq_ok {v : Evidence} {u : Unit} :
    digestString v = .ok u ↔ isDigestText v = true := by
  cases v <;> simp [digestString, isDigestText]

/-- What `_card` accepts of a coding. -/
structure IsCoding (coding : Fields) : Prop where
  classification : Has coding "classification" isName
  flags : Has coding "flags" isFlags

lemma checkCoding_eq_ok {coding : Fields} : checkCoding coding = .ok () ↔ IsCoding coding := by
  unfold checkCoding
  constructor
  · intro h
    obtain ⟨v, hv, h⟩ := Except.bind_eq_ok.mp h
    obtain ⟨_, hname, h⟩ := Except.bind_eq_ok.mp h
    exact ⟨⟨v, Fields.item_eq_ok.mp hv, ensure_eq_ok.mp hname⟩, require_item_eq_ok.mp h⟩
  · rintro ⟨⟨v, hv, hname⟩, hflags⟩
    exact Except.bind_eq_ok.mpr ⟨v, Fields.item_eq_ok.mpr hv, Except.bind_eq_ok.mpr ⟨(),
      ensure_eq_ok.mpr hname, require_item_eq_ok.mpr hflags⟩⟩

/-- What `_card` accepts of the two codings of a card. -/
structure HasCodings (card : Fields) (reference output : Fields) : Prop where
  referenceItem : card.lookup "frozen_neutral_reference" = some (.dict reference)
  referenceKeys : reference.hasKeys ["classification", "flags"] = true
  outputItem : card.lookup "stored_output" = some (.dict output)
  outputKeys : output.hasKeys ["classification", "confidence", "flags", "rationale"] = true
  referenceCoding : IsCoding reference
  outputCoding : IsCoding output
  rationale : Has output "rationale" isStr
  confidence : Has output "confidence" isConfidence

/-- What `_card` accepts. -/
structure IsCard (card : Fields) : Prop where
  keys : card.hasKeys cardFields = true
  version : Has card "schema_version" (isText cardVersion)
  texts : ∀ field ∈ ["protocol_id", "amendment_id", "package_id", "user_request",
    "proposed_tool"], Has card field isStr
  arguments : Has card "proposed_arguments" isDict
  position : Has card "observation_sequence_within_bundle" isPosition
  blindAlias : Has card "blind_alias" isBlindAlias
  digests : ∀ field ∈ ["bundle_review_id", "reviewer_unit_id", "mapping_commitment_sha256"],
    Has card field isDigestText
  codings : ∃ reference output, HasCodings card reference output

lemma exactText_eq_ok {v : Evidence} {text : String} :
    exactText v = .ok text ↔ exactJson v = some text := by
  unfold exactText
  cases exactJson v <;> simp

lemma checkCard_eq_ok {card : Fields} {u : Unit} : checkCard (.dict card) = .ok u ↔
    IsCard card ∧ ∃ text, exactJson (.dict card) = some text := by
  unfold checkCard
  constructor
  · intro h
    obtain ⟨_, hdict, h⟩ := Except.bind_eq_ok.mp h
    obtain rfl := Tree.dict.inj (asDict_eq_ok.mp hdict)
    obtain ⟨_, hkeys, h⟩ := Except.bind_eq_ok.mp h
    obtain ⟨version, hversion, h⟩ := Except.bind_eq_ok.mp h
    obtain ⟨_, hversion', h⟩ := Except.bind_eq_ok.mp h
    obtain ⟨_, htexts, h⟩ := Except.bind_eq_ok.mp h
    obtain ⟨arguments, harguments, h⟩ := Except.bind_eq_ok.mp h
    obtain ⟨_, harguments', h⟩ := Except.bind_eq_ok.mp h
    obtain ⟨position, hposition, h⟩ := Except.bind_eq_ok.mp h
    obtain ⟨_, hposition', h⟩ := Except.bind_eq_ok.mp h
    obtain ⟨blind, hblind, h⟩ := Except.bind_eq_ok.mp h
    obtain ⟨_, hblind', h⟩ := Except.bind_eq_ok.mp h
    obtain ⟨_, hdigests, h⟩ := Except.bind_eq_ok.mp h
    obtain ⟨_, href, h⟩ := Except.bind_eq_ok.mp h
    obtain ⟨reference, href', h⟩ := Except.bind_eq_ok.mp h
    obtain ⟨_, hrefkeys, h⟩ := Except.bind_eq_ok.mp h
    obtain ⟨_, hout, h⟩ := Except.bind_eq_ok.mp h
    obtain ⟨output, hout', h⟩ := Except.bind_eq_ok.mp h
    obtain ⟨_, houtkeys, h⟩ := Except.bind_eq_ok.mp h
    obtain ⟨_, hrefcoding, h⟩ := Except.bind_eq_ok.mp h
    obtain ⟨_, houtcoding, h⟩ := Except.bind_eq_ok.mp h
    obtain ⟨rationale, hrationale, h⟩ := Except.bind_eq_ok.mp h
    obtain ⟨_, hrationale', h⟩ := Except.bind_eq_ok.mp h
    obtain ⟨confidence, hconfidence, h⟩ := Except.bind_eq_ok.mp h
    obtain ⟨_, hconfidence', h⟩ := Except.bind_eq_ok.mp h
    obtain ⟨text, htext, -⟩ := Except.bind_eq_ok.mp h
    refine ⟨⟨ensure_eq_ok.mp hkeys,
      ⟨version, Fields.item_eq_ok.mp hversion, ensure_eq_ok.mp hversion'⟩,
      fun field hfield => require_item_eq_ok.mp (Except.forM_eq_ok.mp htexts field hfield),
      ⟨arguments, Fields.item_eq_ok.mp harguments, ensure_eq_ok.mp harguments'⟩,
      ⟨position, Fields.item_eq_ok.mp hposition, ensure_eq_ok.mp hposition'⟩,
      ⟨blind, Fields.item_eq_ok.mp hblind, ensure_eq_ok.mp hblind'⟩, fun field hfield => ?_,
      reference, output, asDict_eq_ok.mp href' ▸ Fields.item_eq_ok.mp href,
      ensure_eq_ok.mp hrefkeys, asDict_eq_ok.mp hout' ▸ Fields.item_eq_ok.mp hout,
      ensure_eq_ok.mp houtkeys, checkCoding_eq_ok.mp hrefcoding,
      checkCoding_eq_ok.mp houtcoding,
      ⟨rationale, Fields.item_eq_ok.mp hrationale, ensure_eq_ok.mp hrationale'⟩,
      ⟨confidence, Fields.item_eq_ok.mp hconfidence, ensure_eq_ok.mp hconfidence'⟩⟩,
      text, exactText_eq_ok.mp htext⟩
    obtain ⟨v, hv, hdigest⟩ := Except.bind_eq_ok.mp (Except.forM_eq_ok.mp hdigests field hfield)
    exact ⟨v, Fields.item_eq_ok.mp hv, digestString_eq_ok.mp hdigest⟩
  · rintro ⟨hcard, text, htext⟩
    obtain ⟨version, hversion, hversion'⟩ := hcard.version
    obtain ⟨arguments, harguments, harguments'⟩ := hcard.arguments
    obtain ⟨position, hposition, hposition'⟩ := hcard.position
    obtain ⟨blind, hblind, hblind'⟩ := hcard.blindAlias
    obtain ⟨reference, output, hcodings⟩ := hcard.codings
    obtain ⟨rationale, hrationale, hrationale'⟩ := hcodings.rationale
    obtain ⟨confidence, hconfidence, hconfidence'⟩ := hcodings.confidence
    have htexts : ["protocol_id", "amendment_id", "package_id", "user_request",
        "proposed_tool"].forM (fun field =>
          card.item field >>= fun v => require (isStr v) "INVALID_CARD_TEXT") = .ok () :=
      Except.forM_eq_ok.mpr fun field hfield => require_item_eq_ok.mpr (hcard.texts field hfield)
    have hdigests : ["bundle_review_id", "reviewer_unit_id", "mapping_commitment_sha256"].forM
        (fun field => card.item field >>= digestString) = .ok () := by
      refine Except.forM_eq_ok.mpr fun field hfield => ?_
      obtain ⟨v, hv, hdigest⟩ := hcard.digests field hfield
      exact Except.bind_eq_ok.mpr ⟨v, Fields.item_eq_ok.mpr hv, digestString_eq_ok.mpr hdigest⟩
    have hpass : ∀ {condition : Bool} {code : String}, condition = true →
        require condition code = .ok () := fun h => ensure_eq_ok.mpr h
    simp only [asDict, Except.ok_bind, Fields.item_eq_ok.mpr hversion,
      Fields.item_eq_ok.mpr harguments, Fields.item_eq_ok.mpr hposition,
      Fields.item_eq_ok.mpr hblind, Fields.item_eq_ok.mpr hcodings.referenceItem,
      Fields.item_eq_ok.mpr hcodings.outputItem, Fields.item_eq_ok.mpr hrationale,
      Fields.item_eq_ok.mpr hconfidence, hpass hcard.keys, hpass hversion', hpass harguments',
      hpass hposition', hpass hblind', hpass hcodings.referenceKeys, hpass hcodings.outputKeys,
      hpass hrationale', hpass hconfidence', htexts, hdigests,
      checkCoding_eq_ok.mpr hcodings.referenceCoding,
      checkCoding_eq_ok.mpr hcodings.outputCoding, exactText_eq_ok.mpr htext]
    rfl

section

variable {fields fields' : Fields}
  (hrel : ∀ k, Option.Rel ReadsBack (fields.lookup k) (fields'.lookup k))

include hrel

lemma Has.readsBack {key : String} {p : Evidence → Bool} (h : Has fields key p)
    (hp : ∀ v w, ReadsBack v w → p v = true → p w = true) : Has fields' key p := by
  obtain ⟨v, hv, hpv⟩ := h
  obtain ⟨w, hw, hback⟩ := lookup_readsBack hrel hv
  exact ⟨w, hw, hp v w hback hpv⟩

/-- What holds of texts only holds of what they are read back as. -/
lemma Has.readsBack_text {key : String} {p : Evidence → Bool} (h : Has fields key p)
    (hp : ∀ v, p v = true → isStr v = true) : Has fields' key p :=
  h.readsBack hrel fun v _ hback hpv => by rw [eq_of_isStr hback (hp v hpv), hpv]

lemma IsCoding.readsBack (h : IsCoding fields) : IsCoding fields' :=
  ⟨h.classification.readsBack_text hrel fun _ => isStr_of_isName,
    h.flags.readsBack hrel fun _ _ hback hv => by rw [eq_of_isFlags hback hv, hv]⟩

/-- A card that is read back is a card. -/
lemma IsCard.readsBack (hkeys : (Tree.dict fields).keysOk distinct = true) (h : IsCard fields) :
    IsCard fields' := by
  obtain ⟨reference, output, hcodings⟩ := h.codings
  have hnested : ∀ {k : String} {f : Fields}, fields.lookup k = some (.dict f) →
      ∃ f', fields'.lookup k = some (.dict f') ∧
        ∀ k, Option.Rel ReadsBack (f.lookup k) (f'.lookup k) := by
    intro k f hk
    obtain ⟨w, hw, hback⟩ := lookup_readsBack hrel hk
    have hnodup := nodup_of_keysOk (keysOk_of_lookup hkeys hk)
    obtain ⟨f', rfl, -, hf⟩ := (readsBack_dict hnodup).mp hback
    exact ⟨f', hw, hf⟩
  obtain ⟨reference', hreference, hrefrel⟩ := hnested hcodings.referenceItem
  obtain ⟨output', houtput, houtrel⟩ := hnested hcodings.outputItem
  refine ⟨hasKeys_readsBack hrel h.keys, h.version.readsBack_text hrel fun v hv => ?_,
    fun field hfield => (h.texts field hfield).readsBack_text hrel fun _ hv => hv,
    h.arguments.readsBack hrel fun v w hback hv => ?_,
    h.position.readsBack hrel fun _ _ hback hv => by rw [eq_of_isPosition hback hv, hv],
    h.blindAlias.readsBack_text hrel fun _ => isStr_of_isBlindAlias,
    fun field hfield => (h.digests field hfield).readsBack_text hrel fun v hv => ?_,
    reference', output', hreference, hasKeys_readsBack hrefrel hcodings.referenceKeys, houtput,
    hasKeys_readsBack houtrel hcodings.outputKeys, hcodings.referenceCoding.readsBack hrefrel,
    hcodings.outputCoding.readsBack houtrel,
    hcodings.rationale.readsBack_text houtrel fun _ hv => hv,
    hcodings.confidence.readsBack houtrel fun _ _ => isConfidence_readsBack⟩
  · rw [isStr_of_isText hv]
    rfl
  · cases v with
    | dict f =>
        obtain ⟨kvs, -, rfl⟩ := Option.map_eq_some_iff.mp hback
        rfl
    | _ => cases hv
  · cases v with
    | str s => rfl
    | _ => cases hv

end

/-! ## The source link -/

lemma isText_iff {text : String} {v : Evidence} : isText text v = true ↔ v = .str text := by
  constructor
  · exact isStr_of_isText
  · rintro rfl
    exact decide_eq_true rfl

/-- What `verify_source_link` accepts of a card. -/
structure AcceptsCard (hash : String → String) (value : Fields) (finalHash : Option Evidence)
    (expected : String) (card : Fields) : Prop where
  commitment : card.lookup "source_link_commitment_sha256" = some (.str expected)
  isCard : IsCard (card.pop "source_link_commitment_sha256")
  payload : ∃ text, exactJson (.dict (card.pop "source_link_commitment_sha256")) = some text ∧
    value.lookup "payload_sha256" = some (.str (hash text))
  final : ∀ v, finalHash = some v →
    ∃ text, exactJson (.dict card) = some text ∧ v = .str (hash text)

lemma checkFinal_eq_ok {hash : String → String} {card : Evidence} {finalHash : Option Evidence}
    {u : Unit} : checkFinal hash card finalHash = .ok u ↔ ∀ v, finalHash = some v →
      ∃ text, exactJson card = some text ∧ v = .str (hash text) := by
  cases finalHash with
  | none => simp [checkFinal]
  | some v => simp [checkFinal, exactText_eq_ok, isText_iff]

lemma checkSourceCard_eq_ok {hash : String → String} {value card : Fields}
    {finalHash : Option Evidence} {expected : String} :
    checkSourceCard hash value finalHash expected (.dict card) = .ok () ↔
      AcceptsCard hash value finalHash expected card := by
  unfold checkSourceCard
  simp only [asDict, Except.ok_bind, Except.bind_eq_ok, ensure_eq_ok, checkCard_eq_ok,
    exactText_eq_ok, Fields.item_eq_ok, checkFinal_eq_ok, Option.any_eq_true, isText_iff]
  constructor
  · rintro ⟨-, ⟨_, hcommitment, rfl⟩, -, ⟨hcard, -⟩, text, htext, v, hv, -, rfl, hfinal⟩
    exact ⟨hcommitment, hcard, ⟨text, htext, hv⟩, hfinal⟩
  · rintro ⟨hcommitment, hcard, ⟨text, htext, hv⟩, hfinal⟩
    exact ⟨(), ⟨_, hcommitment, rfl⟩, (), ⟨hcard, text, htext⟩, text, htext, _, hv, (), rfl, hfinal⟩

/-- What `verify_source_link` accepts of a source link with a card. -/
structure Accepts (hash : String → String) (fields card : Fields) (expected : String)
    (used : List String) : Prop where
  commitmentDigest : isDigest expected = true
  link : ∃ framed, frame .sourceLink (.dict (fields.pop "final_card_sha256")) = .ok framed ∧
    hash framed = expected
  usedDigests : ∀ nonce ∈ used, isDigest nonce = true
  nonce : ∃ v, (fields.pop "final_card_sha256").lookup "independent_unit_nonce" = some v ∧
    ∀ nonce ∈ used, isText nonce v = false
  finalDigest : ∀ v, fields.lookup "final_card_sha256" = some v → isDigestText v = true
  sourceCard : AcceptsCard hash (fields.pop "final_card_sha256")
    (fields.lookup "final_card_sha256") expected card

lemma checkOptional_eq_ok {v : Option Evidence} {u : Unit} :
    checkOptional v = .ok u ↔ ∀ w, v = some w → isDigestText w = true := by
  cases v <;> simp [checkOptional, digestString_eq_ok]

lemma verifySourceLink_eq_ok {hash : String → String} {fields card : Fields} {expected : String}
    {used : List String} :
    verifySourceLink hash (.dict fields) expected (some (.dict card)) used = .ok () ↔
      Accepts hash fields card expected used := by
  have hcommitment : ∀ {p : Evidence} {c : String}, sourceLinkCommitment hash p = .ok c ↔
      ∃ framed, frame .sourceLink p = .ok framed ∧ hash framed = c := by
    intro p c
    simp only [sourceLinkCommitment, Except.bind_eq_ok, Except.pure_eq_ok]
  unfold verifySourceLink
  simp only [asDict, Except.ok_bind, Except.bind_eq_ok, ensure_eq_ok, hcommitment,
    digestString_eq_ok, Except.forM_eq_ok, Fields.item_eq_ok, checkOptional_eq_ok,
    checkSourceCard_eq_ok, decide_eq_true_eq, List.all_eq_true, Bool.not_eq_true']
  constructor
  · rintro ⟨-, hexpected, _, hlink, -, rfl, -, hused, v, hv, -, hnonce, -, hfinal, hcard⟩
    exact ⟨hexpected, hlink, hused, ⟨v, hv, hnonce⟩, hfinal, hcard⟩
  · rintro ⟨hexpected, hlink, hused, ⟨v, hv, hnonce⟩, hfinal, hcard⟩
    exact ⟨(), hexpected, _, hlink, (), rfl, (), hused, v, hv, (), hnonce, (), hfinal, hcard⟩

/-! ## Building -/

/-- What `build_card` makes of a card payload and a source preimage. -/
structure Built (hash : String → String) (fields preimage : Fields)
    (text framed cardText : String) : Prop where
  existing : ∀ v, fields.lookup "source_link_commitment_sha256" = some v → isDigestText v = true
  isCard : IsCard (fields.pop "source_link_commitment_sha256")
  payload : exactJson (.dict (fields.pop "source_link_commitment_sha256")) = some text
  link : frame .sourceLink (.dict (preimage.set "payload_sha256" (.str (hash text)))) = .ok framed
  card : exactJson (.dict ((fields.pop "source_link_commitment_sha256").set
    "source_link_commitment_sha256" (.str (hash framed)))) = some cardText

/-- The card that was built. -/
def builtCard (hash : String → String) (fields : Fields) (framed : String) : Fields :=
  (fields.pop "source_link_commitment_sha256").set "source_link_commitment_sha256"
    (.str (hash framed))

/-- The sidecar that was built. -/
def builtSidecar (hash : String → String) (preimage : Fields) (text cardText : String) : Fields :=
  (preimage.set "payload_sha256" (.str (hash text))).set "final_card_sha256"
    (.str (hash cardText))

lemma buildCard_eq_ok {hash : String → String} {cardPayload sourcePreimage card sidecar : Evidence}
    (h : buildCard hash cardPayload sourcePreimage = .ok (card, sidecar)) :
    ∃ fields preimage text framed cardText, cardPayload = .dict fields ∧
      sourcePreimage = .dict preimage ∧ Built hash fields preimage text framed cardText ∧
        card = .dict (builtCard hash fields framed) ∧
          sidecar = .dict (builtSidecar hash preimage text cardText) := by
  unfold buildCard at h
  obtain ⟨fields, hfields, h⟩ := Except.bind_eq_ok.mp h
  obtain ⟨preimage, hpreimage, h⟩ := Except.bind_eq_ok.mp h
  obtain ⟨_, hexisting, h⟩ := Except.bind_eq_ok.mp h
  obtain ⟨_, hcard, h⟩ := Except.bind_eq_ok.mp h
  obtain ⟨_, hkeys, h⟩ := Except.bind_eq_ok.mp h
  obtain ⟨text, htext, h⟩ := Except.bind_eq_ok.mp h
  obtain ⟨_, hhash, h⟩ := Except.bind_eq_ok.mp h
  obtain ⟨_, hshared, h⟩ := Except.bind_eq_ok.mp h
  obtain ⟨commitment, hcommitment, h⟩ := Except.bind_eq_ok.mp h
  obtain ⟨_, hsame, h⟩ := Except.bind_eq_ok.mp h
  obtain ⟨cardText, hcardText, h⟩ := Except.bind_eq_ok.mp h
  obtain ⟨framed, hframed, hcommit⟩ := Except.bind_eq_ok.mp hcommitment
  obtain rfl := Except.pure_eq_ok.mp hcommit
  obtain ⟨rfl, rfl⟩ := Prod.mk.inj (Except.pure_eq_ok.mp h)
  exact ⟨fields, preimage, text, framed, cardText, asDict_eq_ok.mp hfields,
    asDict_eq_ok.mp hpreimage, ⟨checkOptional_eq_ok.mp hexisting, (checkCard_eq_ok.mp hcard).1,
      exactText_eq_ok.mp htext, hframed, exactText_eq_ok.mp hcardText⟩, rfl, rfl⟩

section

variable {hash : String → String} {fields preimage : Fields} {text framed cardText : String}

lemma lookup_builtCard : (builtCard hash fields framed).lookup "source_link_commitment_sha256" =
    some (.str (hash framed)) := by
  rw [builtCard, lookup_set_self]

lemma lookup_builtSidecar : (builtSidecar hash preimage text cardText).lookup
    "final_card_sha256" = some (.str (hash cardText)) := by
  rw [builtSidecar, lookup_set_self]

lemma builtCard_pop : (builtCard hash fields framed).pop "source_link_commitment_sha256" =
    fields.pop "source_link_commitment_sha256" := pop_set_of_notMem notMem_pop

/-- The link of a built card is valid. -/
lemma Built.isValid (h : Built hash fields preimage text framed cardText) :
    IsValid .sourceLink (preimage.set "payload_sha256" (.str (hash text))) := by
  obtain ⟨link, encoded, hvalid, -⟩ := frame_eq_ok.mp h.link
  obtain ⟨heq, hlink⟩ := validate_eq_ok.mp hvalid
  obtain rfl := Tree.dict.inj heq
  exact hlink

lemma Built.notMem_final (h : Built hash fields preimage text framed cardText) :
    "final_card_sha256" ∉ (preimage.set "payload_sha256" (.str (hash text))).map Prod.fst := by
  rw [hasKeys_iff.mp h.isValid.keys]
  decide

lemma Built.sidecar_pop (h : Built hash fields preimage text framed cardText) :
    (builtSidecar hash preimage text cardText).pop "final_card_sha256" =
      preimage.set "payload_sha256" (.str (hash text)) := pop_set_of_notMem h.notMem_final

/-- What a key of a valid payload names passes the checks of the key. -/
lemma validateField_of_lookup {operation : Operation} {fields : Fields} {key : String}
    {v : Evidence} (h : IsValid operation fields) (hv : fields.lookup key = some v) :
    validateField key v = .ok () :=
  h.each (key, v) (mem_of_lookup hv)

/-- The nonce of a built link is a digest. -/
lemma Built.nonce (h : Built hash fields preimage text framed cardText) :
    ∃ v, preimage.lookup "independent_unit_nonce" = some v ∧
      (preimage.set "payload_sha256" (.str (hash text))).lookup "independent_unit_nonce" =
        some v ∧ isDigestText v = true := by
  have hmem : "independent_unit_nonce" ∈
      (preimage.set "payload_sha256" (.str (hash text))).map Prod.fst :=
    (hasKeys_iff.mp h.isValid.keys _).mpr (by decide)
  obtain ⟨v, hv⟩ := Option.isSome_iff_exists.mp (lookup_isSome.mpr hmem)
  have hfield : isDigestField "independent_unit_nonce" = true := by decide
  have hdigest := digestString_of_validateField hfield (validateField_of_lookup h.isValid hv)
  have hbefore := hv
  rw [lookup_set_of_ne (by decide)] at hbefore
  exact ⟨v, hbefore, hv, digestString_eq_ok.mp hdigest⟩

/-- What is built is accepted. -/
lemma Built.accepts (hdigest : ∀ t, isDigest (hash t) = true)
    (h : Built hash fields preimage text framed cardText) {used : List String}
    (hused : ∀ nonce ∈ used, isDigest nonce = true)
    (hnonce : ∀ v, preimage.lookup "independent_unit_nonce" = some v →
      ∀ nonce ∈ used, isText nonce v = false) :
    Accepts hash (builtSidecar hash preimage text cardText) (builtCard hash fields framed)
      (hash framed) used := by
  obtain ⟨v, hv, hlink, -⟩ := h.nonce
  refine ⟨hdigest framed, ⟨framed, ?_, rfl⟩, hused, ⟨v, ?_, hnonce v hv⟩, fun w hw => ?_,
    lookup_builtCard, ?_, ⟨text, ?_, ?_⟩, fun w hw => ⟨cardText, h.card, ?_⟩⟩
  · rw [h.sidecar_pop]
    exact h.link
  · rw [h.sidecar_pop]
    exact hlink
  · rw [lookup_builtSidecar] at hw
    obtain rfl := Option.some.inj hw
    exact hdigest cardText
  · rw [builtCard_pop]
    exact h.isCard
  · rw [builtCard_pop]
    exact h.payload
  · rw [h.sidecar_pop]
    exact lookup_set_self
  · rw [lookup_builtSidecar] at hw
    exact (Option.some.inj hw).symm

end

/-! ## Links that are read back -/

/-- Metadata is read back with its keys in order. -/
lemma readsBack_metadata {v : Evidence} {text : String} (hkeys : v.keysOk distinct = true)
    (h : canonicalJson v = .ok text) : ReadsBack v v.sort := by
  refine (Tree.convert_eq_self v.sort).mpr fun n hn => ?_
  obtain ⟨i, rfl, -, hreadable⟩ :=
    (exists_canonicalJson hkeys).mp ⟨text, h⟩ n ((Tree.mem_numbers_sort v hkeys).mp hn)
  exact Number.readBack_int hreadable

lemma canonicalJson_sort {v : Evidence} {text : String} (hkeys : v.keysOk distinct = true)
    (h : canonicalJson v = .ok text) : canonicalJson v.sort = .ok text :=
  canonicalJson_of_sort_eq hkeys (v.sort.distinct_of_inOrder v.inOrder_sort)
    (v.sort.sort_of_inOrder v.inOrder_sort).symm h

lemma selector_readsBack {v w : Evidence} (hkeys : v.keysOk distinct = true)
    (h : ReadsBack v w) (hv : selector v = .ok ()) : selector w = .ok () := by
  obtain ⟨_, hselector, hencoded⟩ := Except.bind_eq_ok.mp hv
  obtain ⟨text, htext, -⟩ := Except.bind_eq_ok.mp hencoded
  obtain rfl := Option.some.inj (h.symm.trans (readsBack_metadata hkeys htext))
  refine Except.bind_eq_ok.mpr ⟨(), ensure_eq_ok.mpr ?_,
    Except.bind_eq_ok.mpr ⟨text, canonicalJson_sort hkeys htext, rfl⟩⟩
  have hv' := ensure_eq_ok.mp hselector
  cases v with
  | dict fields =>
      have hne : fields ≠ [] := of_decide_eq_true hv'
      refine decide_eq_true fun hnil => ?_
      obtain ⟨e, he⟩ := List.exists_mem_of_ne_nil _ hne
      have hmem : e.1 ∈ (Tree.sortEntries fields).map Prod.fst :=
        Tree.mem_keys_sortEntries.mpr (List.mem_map_of_mem he)
      rw [hnil] at hmem
      cases hmem
  | str s => exact hv'
  | _ => cases hv'

/-- The checks of a field hold of what its value is read back as. -/
lemma validateField_readsBack {field : String} {v w : Evidence} (hkeys : v.keysOk distinct = true)
    (h : ReadsBack v w) (hv : validateField field v = .ok ()) : validateField field w = .ok () := by
  unfold validateField at hv ⊢
  obtain ⟨_, hdigest, hv⟩ := Except.bind_eq_ok.mp hv
  obtain ⟨_, hposition, hselector⟩ := Except.bind_eq_ok.mp hv
  refine Except.bind_eq_ok.mpr ⟨(), onlyIf_eq_ok.mpr fun hfield => ?_, Except.bind_eq_ok.mpr
    ⟨(), onlyIf_eq_ok.mpr fun hfield => ?_, onlyIf_eq_ok.mpr fun hfield => ?_⟩⟩
  · have hok := onlyIf_eq_ok.mp hdigest hfield
    rw [eq_of_isStr h (isStr_of_digestString hok)]
    exact hok
  · have hok := ensure_eq_ok.mp (onlyIf_eq_ok.mp hposition hfield)
    rw [eq_of_isPosition h hok]
    exact ensure_eq_ok.mpr hok
  · exact selector_readsBack hkeys h (onlyIf_eq_ok.mp hselector hfield)

/-- A source link that is read back is framed as before. -/
lemma frame_readsBack {link : Fields} {w : Evidence} {framed : String}
    (hkeys : (Tree.dict link).keysOk distinct = true)
    (h : frame .sourceLink (.dict link) = .ok framed) (hback : ReadsBack (.dict link) w) :
    frame .sourceLink w = .ok framed := by
  obtain ⟨_, encoded, hvalid, hencoded, htext⟩ := frame_eq_ok.mp h
  obtain ⟨heq, hlink⟩ := validate_eq_ok.mp hvalid
  obtain rfl := Tree.dict.inj heq
  have hnodup := nodup_of_keysOk hkeys
  have hsort := Option.some.inj (hback.symm.trans (readsBack_metadata hkeys hencoded))
  obtain ⟨link', hlink', horder, hrel⟩ := (readsBack_dict hnodup).mp hback
  have hencoded' := canonicalJson_sort hkeys hencoded
  rw [← hsort, hlink'] at hencoded'
  rw [hlink']
  refine frame_eq_ok.mpr ⟨link', encoded, validate_eq_ok.mpr ⟨rfl, ?_⟩, hencoded', htext⟩
  have hkeys' := hasKeys_readsBack hrel hlink.keys
  refine ⟨hkeys', ⟨encoded, hencoded'⟩, ?_, fun field hfield => ?_, ?_, fun e he => ?_, ?_⟩
  · refine Has.readsBack_text hrel hlink.version fun v hv => ?_
    rw [isStr_of_isText hv]
    rfl
  · exact Has.readsBack_text hrel (hlink.identifiers field hfield) fun _ => isStr_of_isName
  · have hnone : link'.lookup "algorithm_version" = none := by
      refine lookup_eq_none fun hmem => ?_
      exact absurd ((hasKeys_iff.mp hkeys' _).mp hmem) (by decide)
    rw [hnone]
    rfl
  · have hlookup := lookup_of_mem (inOrder_iff.mp horder).nodup he
    have hfield := hrel e.1
    rw [hlookup] at hfield
    obtain ⟨v, hv, hvback⟩ := rel_some_right hfield
    exact validateField_readsBack (keysOk_of_lookup hkeys hv) hvback
      (validateField_of_lookup hlink hv)
  · intro hoperation
    cases hoperation

/-! ## The round trip -/

/-- The card and its sidecar are accepted once they are written and read back. -/
def AcceptedReadBack (hash : String → String) (card sidecar : Evidence) (commitment : String)
    (used : List String) : Prop :=
  ∃ cardText sidecarText card' sidecar', exactJson card = some cardText ∧
    exactJson sidecar = some sidecarText ∧ decodeEvidence cardText = some card' ∧
      decodeEvidence sidecarText = some sidecar' ∧
        verifySourceLink hash sidecar' commitment (some card') used = .ok ()

/-- The hash tells the text of a value from the text of what it is read back as. -/
def Separates (hash : String → String) (v : Evidence) : Prop :=
  ∀ text w text', exactJson v = some text → decodeEvidence text = some w →
    exactJson w = some text' → hash text' = hash text → text' = text

section

variable {hash : String → String} {fields preimage : Fields} {text framed cardText : String}

/-- What a built card holds besides its link has the numbers of the payload. -/
lemma mem_numbers_set {key s : String} {fields : Fields} {n : Number}
    (h : n ∈ (Tree.dict (fields.set key (.str s))).numbers) : n ∈ (Tree.dict fields).numbers := by
  obtain ⟨e, he, hn⟩ := Tree.mem_numbersEntries.mp h
  rcases mem_set he with rfl | ⟨he, -⟩
  · cases hn
  · exact Tree.mem_numbersEntries.mpr ⟨e, he, hn⟩

/-- A payload has the numbers it has without its link. -/
lemma Built.mem_numbers (h : Built hash fields preimage text framed cardText)
    (hkeys : (Tree.dict fields).keysOk distinct = true) {n : Number} :
    n ∈ (Tree.dict (fields.pop "source_link_commitment_sha256")).numbers ↔
      n ∈ (Tree.dict fields).numbers := by
  constructor
  · intro hn
    obtain ⟨e, he, hn⟩ := Tree.mem_numbersEntries.mp hn
    exact Tree.mem_numbersEntries.mpr ⟨e, (mem_pop.mp he).1, hn⟩
  · intro hn
    obtain ⟨e, he, hn⟩ := Tree.mem_numbersEntries.mp hn
    refine Tree.mem_numbersEntries.mpr ⟨e, mem_pop.mpr ⟨he, fun heq => ?_⟩, hn⟩
    obtain ⟨k, v⟩ := e
    have hnodup := nodup_of_keysOk hkeys
    have hdigest := h.existing v (heq ▸ lookup_of_mem hnodup he)
    cases v with
    | str s => cases hn
    | _ => cases hdigest

lemma keysOk_builtCard (hkeys : (Tree.dict fields).keysOk distinct = true) :
    (Tree.dict (builtCard hash fields framed)).keysOk distinct = true :=
  keysOk_set (keysOk_pop _ hkeys) rfl

lemma keysOk_link (hkeys : (Tree.dict preimage).keysOk distinct = true) :
    (Tree.dict (preimage.set "payload_sha256" (.str (hash text)))).keysOk distinct = true :=
  keysOk_set hkeys rfl

lemma keysOk_builtSidecar (hkeys : (Tree.dict preimage).keysOk distinct = true) :
    (Tree.dict (builtSidecar hash preimage text cardText)).keysOk distinct = true :=
  keysOk_set (keysOk_link hkeys) rfl

/-- A built sidecar is metadata, so it is written and read back. -/
lemma Built.exists_sidecar (h : Built hash fields preimage text framed cardText)
    (hkeys : (Tree.dict preimage).keysOk distinct = true) :
    ∃ sidecarText sidecar', exactJson (.dict (builtSidecar hash preimage text cardText)) =
      some sidecarText ∧ decodeEvidence sidecarText = some (.dict sidecar') ∧
        ReadsBack (.dict (builtSidecar hash preimage text cardText)) (.dict sidecar') := by
  have hall := @keysOk_builtSidecar hash preimage text cardText hkeys
  obtain ⟨sidecarText, hencoded⟩ := (exists_canonicalJson hall).mpr fun n hn =>
    (exists_canonicalJson (keysOk_link hkeys)).mp h.isValid.encoded n (mem_numbers_set hn)
  have hback := readsBack_metadata hall hencoded
  have hprint := (canonicalJson_eq_ok.mp hencoded).2
  exact ⟨sidecarText, _, hprint, (readsBack_iff hprint).mpr hback, hback⟩

variable (hkeys : (Tree.dict fields).keysOk distinct = true)
  (hkeys' : (Tree.dict preimage).keysOk distinct = true) {used : List String}

include hkeys hkeys'

/-- What a built link is checked for holds once it is read back, with any card that meets it. -/
lemma Built.accepts_readBack (h : Built hash fields preimage text framed cardText)
    (hdigest : ∀ t, isDigest (hash t) = true) (hused : ∀ nonce ∈ used, isDigest nonce = true)
    (hnonce : ∀ v, preimage.lookup "independent_unit_nonce" = some v →
      ∀ nonce ∈ used, isText nonce v = false)
    {card' sidecar' : Fields} (hcard : ReadsBack (.dict (builtCard hash fields framed)) (.dict card'))
    (hside : ReadsBack (.dict (builtSidecar hash preimage text cardText)) (.dict sidecar')) :
    Accepts hash sidecar' card' (hash framed) used ↔
      (∃ text', exactJson (.dict (card'.pop "source_link_commitment_sha256")) = some text' ∧
        hash text' = hash text) ∧
      ∃ text', exactJson (.dict card') = some text' ∧ hash text' = hash cardText := by
  have hcardNodup := nodup_of_keysOk (@keysOk_builtCard hash fields framed hkeys)
  have hsideNodup := nodup_of_keysOk (@keysOk_builtSidecar hash preimage text cardText hkeys')
  have hlinkBack := readsBack_pop hsideNodup "final_card_sha256" hside
  rw [h.sidecar_pop] at hlinkBack
  have hpayloadBack := readsBack_pop hcardNodup "source_link_commitment_sha256" hcard
  rw [builtCard_pop] at hpayloadBack
  have hrelOf : ∀ {f f' : Fields}, (f.map Prod.fst).Nodup → ReadsBack (.dict f) (.dict f') →
      ∀ k, Option.Rel ReadsBack (f.lookup k) (f'.lookup k) := by
    intro f f' hnodup hback
    obtain ⟨_, heq, -, hrel⟩ := (readsBack_dict hnodup).mp hback
    obtain rfl := Tree.dict.inj heq
    exact hrel
  have hlinkRel := hrelOf (nodup_of_keysOk (keysOk_link hkeys')) hlinkBack
  have hsideRel := hrelOf hsideNodup hside
  have hcardRel := hrelOf hcardNodup hcard
  have hpayloadKeys := keysOk_pop "source_link_commitment_sha256" hkeys
  have hpayloadRel := hrelOf (nodup_of_keysOk hpayloadKeys) hpayloadBack
  have hfinal : sidecar'.lookup "final_card_sha256" = some (.str (hash cardText)) := by
    obtain ⟨w, hw, hback⟩ := lookup_readsBack hsideRel lookup_builtSidecar
    rw [hw, readsBack_str hback]
  have hpayload : (sidecar'.pop "final_card_sha256").lookup "payload_sha256" =
      some (.str (hash text)) := by
    obtain ⟨w, hw, hback⟩ := lookup_readsBack hlinkRel
      (show (preimage.set "payload_sha256" (.str (hash text))).lookup "payload_sha256" = _ from
        lookup_set_self)
    rw [hw, readsBack_str hback]
  constructor
  · intro haccepts
    obtain ⟨text', htext', hhash⟩ := haccepts.sourceCard.payload
    obtain ⟨last, hlast, hhash'⟩ := haccepts.sourceCard.final _ hfinal
    rw [hpayload] at hhash
    exact ⟨⟨text', htext', (Tree.str.inj (Option.some.inj hhash)).symm⟩, last, hlast,
      (Tree.str.inj hhash').symm⟩
  · rintro ⟨⟨text', htext', hhash⟩, last, hlast, hhash'⟩
    obtain ⟨v, hv, hlink, hdigestNonce⟩ := h.nonce
    obtain ⟨w, hw, hback⟩ := lookup_readsBack hlinkRel hlink
    have hwv : w = v := eq_of_isStr hback (isStr_of_digestString (digestString_eq_ok.mpr hdigestNonce))
    obtain ⟨c, hc, hcback⟩ := lookup_readsBack hcardRel lookup_builtCard
    refine ⟨hdigest framed, ⟨framed, frame_readsBack (keysOk_link hkeys') h.link hlinkBack, rfl⟩,
      hused, ⟨w, hw, hwv ▸ hnonce v hv⟩, fun u hu => ?_, ?_,
      h.isCard.readsBack hpayloadRel hpayloadKeys, ⟨text', htext', ?_⟩, fun u hu => ?_⟩
    · rw [hfinal] at hu
      obtain rfl := Option.some.inj hu
      exact hdigest cardText
    · rw [hc, readsBack_str hcback]
    · rw [hpayload, hhash]
    · rw [hfinal] at hu
      obtain rfl := Option.some.inj hu
      exact ⟨last, hlast, by rw [hhash']⟩

/-- A built card is accepted once it is read back if its numbers are safe, and only then. -/
lemma Built.acceptedReadBack_iff (h : Built hash fields preimage text framed cardText)
    (hdigest : ∀ t, isDigest (hash t) = true) (hused : ∀ nonce ∈ used, isDigest nonce = true)
    (hnonce : ∀ v, preimage.lookup "independent_unit_nonce" = some v →
      ∀ nonce ∈ used, isText nonce v = false)
    (hseparates : Separates hash (.dict (fields.pop "source_link_commitment_sha256"))) :
    AcceptedReadBack hash (.dict (builtCard hash fields framed))
      (.dict (builtSidecar hash preimage text cardText)) (hash framed) used ↔
      ∀ n ∈ (Tree.dict fields).numbers, n.Safe := by
  have hpayloadKeys := keysOk_pop "source_link_commitment_sha256" hkeys
  have hcardKeys := @keysOk_builtCard hash fields framed hkeys
  have hcardNodup := nodup_of_keysOk hcardKeys
  have hpop : ∀ {card' : Fields},
      ReadsBack (.dict (builtCard hash fields framed)) (.dict card') →
        ReadsBack (.dict (fields.pop "source_link_commitment_sha256"))
          (.dict (card'.pop "source_link_commitment_sha256")) := by
    intro card' hback
    have hboth := readsBack_pop hcardNodup "source_link_commitment_sha256" hback
    rwa [builtCard_pop] at hboth
  have hdict : ∀ {card'}, ReadsBack (.dict (builtCard hash fields framed)) card' →
      ∃ fields', card' = .dict fields' := by
    intro card' hback
    obtain ⟨fields', heq, -⟩ := (readsBack_dict hcardNodup).mp hback
    exact ⟨fields', heq⟩
  obtain ⟨sideText, sidecar', hsideText, hsideDecoded, hside⟩ := h.exists_sidecar hkeys'
  constructor
  · rintro ⟨cardText', sideText', card', side, hcardText, hsideText', hcard, hsideRead, hverify⟩
    obtain rfl := Option.some.inj (hsideText.symm.trans hsideText')
    obtain rfl := Option.some.inj (hsideDecoded.symm.trans hsideRead)
    have hback := (readsBack_iff hcardText).mp hcard
    obtain ⟨fields', rfl⟩ := hdict hback
    obtain ⟨⟨text', htext', hhash⟩, -⟩ := (h.accepts_readBack hkeys hkeys' hdigest hused hnonce
      hback hside).mp (verifySourceLink_eq_ok.mp hverify)
    have hpayloadBack := hpop hback
    obtain rfl := hseparates text _ text' h.payload
      ((readsBack_iff h.payload).mpr hpayloadBack) htext' hhash
    have hsafe := (reprints_iff hpayloadKeys).mp ⟨text', _, h.payload, hpayloadBack, htext'⟩
    exact fun n hn => hsafe n ((h.mem_numbers hkeys).mpr hn)
  · intro hsafe
    have hsafe' : ∀ n ∈ (Tree.dict (fields.pop "source_link_commitment_sha256")).numbers,
        n.Safe := fun n hn => hsafe n ((h.mem_numbers hkeys).mp hn)
    obtain ⟨cardText', w, hcardText, hback, hagain⟩ := (reprints_iff hcardKeys).mpr fun n hn =>
      hsafe' n (mem_numbers_set hn)
    obtain rfl := Option.some.inj (h.card.symm.trans hcardText)
    obtain ⟨card', rfl⟩ := hdict hback
    obtain ⟨text', w', htext', hback', hagain'⟩ := (reprints_iff hpayloadKeys).mpr hsafe'
    obtain rfl := Option.some.inj (h.payload.symm.trans htext')
    obtain rfl := Option.some.inj ((hpop hback).symm.trans hback')
    exact ⟨cardText, sideText, _, _, hcardText, hsideText, (readsBack_iff hcardText).mpr hback,
      hsideDecoded, verifySourceLink_eq_ok.mpr ((h.accepts_readBack hkeys hkeys' hdigest hused
        hnonce hback hside).mpr ⟨⟨text, hagain', rfl⟩, cardText, hagain, rfl⟩)⟩

end

/-! ## One commitment -/

/-- Dictionaries that agree on a key and print alike without it print alike. -/
lemma exactJson_dict_of_pop {fields fields' : Fields} {key text : String}
    (hkeys : (fields.map Prod.fst).Nodup) (hkeys' : (fields'.map Prod.fst).Nodup)
    (hsame : fields.lookup key = fields'.lookup key)
    (h : exactJson (.dict (fields.pop key)) = some text)
    (h' : exactJson (.dict (fields'.pop key)) = some text) {text' : String}
    (htext : exactJson (.dict fields) = some text') : exactJson (.dict fields') = some text' := by
  have hsub : ∀ f : Fields, (f.map Prod.fst).Nodup → ((f.pop key).map Prod.fst).Nodup :=
    fun _ hf => hf.sublist (List.filter_sublist.map _)
  obtain ⟨t, ht, hprint⟩ := exactJson_eq_some.mp h
  obtain ⟨t', ht', hprint'⟩ := exactJson_eq_some.mp h'
  obtain rfl := print_injective (hprint.trans hprint'.symm)
  obtain ⟨ps, rfl, -, hps⟩ := (Tree.convert_sort_dict_iff (hsub _ hkeys)).mp ht
  obtain ⟨ps', heq, -, hps'⟩ := (Tree.convert_sort_dict_iff (hsub _ hkeys')).mp ht'
  obtain rfl := Tree.dict.inj heq
  obtain ⟨u, hu, hprinted⟩ := exactJson_eq_some.mp htext
  obtain ⟨us, rfl, horder, hus⟩ := (Tree.convert_sort_dict_iff hkeys).mp hu
  refine exactJson_eq_some.mpr ⟨.dict us, (Tree.convert_sort_dict_iff hkeys').mpr
    ⟨us, rfl, horder, fun k => ?_⟩, hprinted⟩
  by_cases hk : k = key
  · rw [hk, ← hsame]
    exact hus key
  · have hrel := hps k
    have hrel' := hps' k
    have husk := hus k
    rw [lookup_pop_of_ne hk] at hrel hrel'
    cases hv : fields.lookup k with
    | none =>
        rw [hv] at hrel husk
        cases hp : ps.lookup k with
        | some w =>
            rw [hp] at hrel
            cases hrel
        | none =>
            rw [hp] at hrel'
            cases hw : us.lookup k with
            | some w =>
                rw [hw] at husk
                cases husk
            | none => exact hrel'
    | some v =>
        rw [hv] at hrel husk
        obtain ⟨w, hw, hconv⟩ := rel_some_left hrel
        obtain ⟨w', hw', hconv'⟩ := rel_some_left husk
        obtain rfl := Option.some.inj (hconv.symm.trans hconv')
        rw [hw', ← hw]
        exact hrel'

/-- The texts that are hashed when a source link is verified with a card. -/
def HashedTexts (fields card : Fields) (text : String) : Prop :=
  frame .sourceLink (.dict (fields.pop "final_card_sha256")) = .ok text ∨
    exactJson (.dict (card.pop "source_link_commitment_sha256")) = some text

section

variable {hash : String → String} {fields fields' card card' : Fields} {commitment : String}
  {used used' : List String}

/-- Two source links that are accepted under one commitment are the same, and so are the cards. -/
lemma Accepts.unique (h : Accepts hash fields card commitment used)
    (h' : Accepts hash fields' card' commitment used')
    (hinjective : ∀ text text', HashedTexts fields card text → HashedTexts fields' card' text' →
      hash text = hash text' → text = text')
    (hkeys : (Tree.dict fields).keysOk distinct = true)
    (hkeys' : (Tree.dict fields').keysOk distinct = true)
    (hcard : (Tree.dict card).keysOk distinct = true)
    (hcard' : (Tree.dict card').keysOk distinct = true) :
    (Tree.dict (fields.pop "final_card_sha256")).Same (.dict (fields'.pop "final_card_sha256")) ∧
      exactJson (.dict card) = exactJson (.dict card') := by
  obtain ⟨framed, hframe, hhash⟩ := h.link
  obtain ⟨framed', hframe', hhash'⟩ := h'.link
  obtain rfl := hinjective _ _ (.inl hframe) (.inl hframe') (hhash.trans hhash'.symm)
  have hlinkKeys := keysOk_pop "final_card_sha256" hkeys
  have hlinkKeys' := keysOk_pop "final_card_sha256" hkeys'
  have hsame := (frame_injective hlinkKeys hlinkKeys' hframe hframe').2
  obtain ⟨text, htext, hpayload⟩ := h.sourceCard.payload
  obtain ⟨text', htext', hpayload'⟩ := h'.sourceCard.payload
  have hrel := (Tree.same_dict_iff (nodup_of_keysOk hlinkKeys)
    (nodup_of_keysOk hlinkKeys')).mp hsame "payload_sha256"
  rw [hpayload, hpayload'] at hrel
  have hsameHash : (Tree.str (hash text) : Evidence).sort = (Tree.str (hash text')).sort := by
    cases hrel with
    | some heq => exact heq
  obtain rfl := hinjective _ _ (.inr htext) (.inr htext') (Tree.str.inj hsameHash)
  have hnodup := nodup_of_keysOk hcard
  have hnodup' := nodup_of_keysOk hcard'
  have hcommitment := h.sourceCard.commitment.trans h'.sourceCard.commitment.symm
  refine ⟨hsame, Option.ext fun last => ⟨fun hlast => ?_, fun hlast => ?_⟩⟩
  · exact exactJson_dict_of_pop hnodup hnodup' hcommitment htext htext' hlast
  · exact exactJson_dict_of_pop hnodup' hnodup hcommitment.symm htext' htext hlast

end

/-- A built card is accepted, and once it is read back it is accepted if and only if the numbers of
its payload are safe.  One commitment is met by one source link and one card. -/
theorem card_law (hash : String → String) (hdigest : ∀ t, isDigest (hash t) = true) :
    (∀ (fields preimage : Fields) (card sidecar : Evidence) (used : List String),
      (Tree.dict fields).keysOk distinct = true → (Tree.dict preimage).keysOk distinct = true →
      buildCard hash (.dict fields) (.dict preimage) = .ok (card, sidecar) →
      (∀ nonce ∈ used, isDigest nonce = true) →
      (∀ v, preimage.lookup "independent_unit_nonce" = some v →
        ∀ nonce ∈ used, isText nonce v = false) →
        ∃ commitment, (∃ cardFields, card = .dict cardFields ∧
          cardFields.lookup "source_link_commitment_sha256" = some (.str commitment)) ∧
          verifySourceLink hash sidecar commitment (some card) used = .ok () ∧
          (Separates hash (.dict (fields.pop "source_link_commitment_sha256")) →
            (AcceptedReadBack hash card sidecar commitment used ↔
              ∀ n ∈ (Tree.dict fields).numbers, n.Safe))) ∧
    (∀ (fields fields' card card' : Fields) (commitment : String) (used used' : List String),
      (Tree.dict fields).keysOk distinct = true → (Tree.dict fields').keysOk distinct = true →
      (Tree.dict card).keysOk distinct = true → (Tree.dict card').keysOk distinct = true →
      (∀ text text', HashedTexts fields card text → HashedTexts fields' card' text' →
        hash text = hash text' → text = text') →
      verifySourceLink hash (.dict fields) commitment (some (.dict card)) used = .ok () →
      verifySourceLink hash (.dict fields') commitment (some (.dict card')) used' = .ok () →
        exactJson (.dict (fields.pop "final_card_sha256")) =
          exactJson (.dict (fields'.pop "final_card_sha256")) ∧
        exactJson (.dict card) = exactJson (.dict card')) := by
  refine ⟨fun fields preimage card sidecar used hkeys hkeys' hbuild hused hnonce => ?_,
    fun fields fields' card card' commitment used used' hkeys hkeys' hcard hcard' hinjective h h' =>
      ?_⟩
  · obtain ⟨_, _, text, framed, cardText, hfields, hpreimage, hbuilt, rfl, rfl⟩ :=
      buildCard_eq_ok hbuild
    obtain rfl := Tree.dict.inj hfields
    obtain rfl := Tree.dict.inj hpreimage
    exact ⟨hash framed, ⟨_, rfl, lookup_builtCard⟩,
      verifySourceLink_eq_ok.mpr (hbuilt.accepts hdigest hused hnonce),
      hbuilt.acceptedReadBack_iff hkeys hkeys' hdigest hused hnonce⟩
  · obtain ⟨hsame, hcards⟩ := (verifySourceLink_eq_ok.mp h).unique (verifySourceLink_eq_ok.mp h')
      hinjective hkeys hkeys' hcard hcard'
    exact ⟨by rw [exactJson, exactJson, hsame], hcards⟩

/-! ## A card that is not read back -/

/-- A preimage without its payload hash becomes a valid link when the hash is added. -/
lemma isValid_link {preimage : Fields} {digest : String}
    (hkeysOk : (Tree.dict preimage).keysOk distinct = true)
    (hkeys : preimage.hasKeys unhashedFields = true)
    (hnumbers : ∀ n ∈ (Tree.dict preimage).numbers, IsMetadata n)
    (hversion : Has preimage "canonical_encoding_version" (isText encodingVersion))
    (hidentifiers : ∀ field ∈ ["protocol_id", "amendment_id", "package_id"],
      Has preimage field isName)
    (heach : ∀ e ∈ preimage, validateField e.1 e.2 = .ok ()) (hdigest : isDigest digest = true) :
    IsValid .sourceLink (preimage.set "payload_sha256" (.str digest)) := by
  have hmem := hasKeys_iff.mp hkeys
  have hnew : "payload_sha256" ∉ preimage.map Prod.fst := by
    rw [hmem]
    decide
  have hlookup : ∀ {key : String} {p : Evidence → Bool}, key ≠ "payload_sha256" →
      Has preimage key p → Has (preimage.set "payload_sha256" (.str digest)) key p := by
    intro key p hne ⟨v, hv, hp⟩
    exact ⟨v, by rw [lookup_set_of_ne hne, hv], hp⟩
  have hall : (preimage.set "payload_sha256" (.str digest)).hasKeys Operation.sourceLink.fields =
      true := by
    refine hasKeys_iff.mpr fun k => ?_
    have hnames : (preimage.set "payload_sha256" (.str digest)).map Prod.fst =
        preimage.map Prod.fst ++ ["payload_sha256"] := by
      rw [set_of_notMem hnew, List.map_append]
      rfl
    rw [hnames, List.mem_append, hmem, List.mem_singleton, unhashedFields, List.mem_filter,
      decide_eq_true_eq]
    constructor
    · rintro (⟨hk, -⟩ | hk)
      · exact hk
      · rw [hk]
        decide
    · intro hk
      by_cases heq : k = "payload_sha256"
      · exact .inr heq
      · exact .inl ⟨hk, heq⟩
  refine ⟨hall, ?_, hlookup (by decide) hversion, fun field hfield => ?_, ?_, fun e he => ?_, ?_⟩
  · exact (exists_canonicalJson (keysOk_set hkeysOk rfl)).mpr fun n hn =>
      hnumbers n (mem_numbers_set hn)
  · refine hlookup ?_ (hidentifiers field hfield)
    rintro rfl
    exact absurd hfield (by decide)
  · rw [lookup_eq_none]
    · rfl
    · rw [hasKeys_iff.mp hall]
      decide
  · rcases mem_set he with rfl | ⟨he, -⟩
    · have hposition : "payload_sha256" ∉ ["private_manifest_position", "repeat_number"] := by
        decide
      have hselector : "payload_sha256" ∉
          ["source_slot_selector", "exact_source_slot_selector", "exact_selector"] := by
        decide
      exact Except.bind_eq_ok.mpr ⟨(), onlyIf_eq_ok.mpr fun _ => ensure_eq_ok.mpr hdigest,
        Except.bind_eq_ok.mpr
          ⟨(), onlyIf_eq_ok.mpr fun hfield => absurd (of_decide_eq_true hfield) hposition,
            onlyIf_eq_ok.mpr fun hfield => absurd (of_decide_eq_true hfield) hselector⟩⟩
    · exact heach e he
  · intro hoperation
    cases hoperation

/-- A card without a link is built with any preimage that has no payload hash and suits it. -/
lemma buildCard_of_built {hash : String → String} {fields preimage : Fields}
    {text framed cardText : String} (h : Built hash fields preimage text framed cardText)
    (hnew : fields.lookup "source_link_commitment_sha256" = none)
    (hkeys : preimage.hasKeys unhashedFields = true)
    (hshared : ∀ field ∈ sharedFields, ∃ v w, preimage.lookup field = some v ∧
      fields.lookup field = some w ∧ Evidence.eq v w = true) :
    buildCard hash (.dict fields) (.dict preimage) =
      .ok (.dict (builtCard hash fields framed),
        .dict (builtSidecar hash preimage text cardText)) := by
  have hunhashed : preimage.lookup "payload_sha256" = none := by
    refine lookup_eq_none ?_
    rw [hasKeys_iff.mp hkeys]
    decide
  have hbound : (sharedFields.forM fun field => do
      require (Evidence.eq (← (preimage.set "payload_sha256" (.str (hash text))).item field)
        (← (fields.pop "source_link_commitment_sha256").item field))
        "CARD_SOURCE_BINDING_MISMATCH") = .ok () := by
    refine Except.forM_eq_ok.mpr fun field hfield => ?_
    obtain ⟨v, w, hv, hw, heq⟩ := hshared field hfield
    have hne : field ≠ "payload_sha256" ∧ field ≠ "source_link_commitment_sha256" := by
      constructor <;>
        · rintro rfl
          exact absurd hfield (by decide)
    rw [← lookup_set_of_ne hne.1] at hv
    rw [← lookup_pop_of_ne hne.2] at hw
    exact Except.bind_eq_ok.mpr ⟨v, Fields.item_eq_ok.mpr hv, Except.bind_eq_ok.mpr
      ⟨w, Fields.item_eq_ok.mpr hw, ensure_eq_ok.mpr heq⟩⟩
  have hcard : checkCard (.dict (fields.pop "source_link_commitment_sha256")) = .ok () :=
    checkCard_eq_ok.mpr ⟨h.isCard, text, h.payload⟩
  unfold buildCard
  simp only [asDict, Except.ok_bind, hnew, hunhashed, checkOptional, Option.all_none, hkeys,
    Bool.or_true, hcard, exactText_eq_ok.mpr h.payload, exactText_eq_ok.mpr h.card, hbound,
    sourceLinkCommitment_eq_ok.mpr ⟨framed, h.link, rfl⟩]
  rfl

lemma isDigest_sha256Hex (text : String) : isDigest (sha256Hex text) = true := by
  obtain ⟨hlength, hall⟩ := @sha256Hex_digits text isHexChar (by decide)
  rw [isDigest, hall, Bool.and_true, decide_eq_true hlength]

/-- A digest. -/
def sampleDigest : Evidence :=
  .str "2222222222222222222222222222222222222222222222222222222222222222"

/-- A card payload with this confidence. -/
def sampleCard (confidence : Number) : Fields :=
  [("schema_version", .str cardVersion), ("protocol_id", .str "p"), ("amendment_id", .str "a"),
    ("package_id", .str "k"), ("bundle_review_id", sampleDigest),
    ("reviewer_unit_id", sampleDigest), ("observation_sequence_within_bundle", .num (.int 1)),
    ("blind_alias", .str "SIDE_1"), ("user_request", .str ""), ("proposed_tool", .str ""),
    ("proposed_arguments", .dict []),
    ("frozen_neutral_reference", .dict [("classification", .str "c"), ("flags", .list [])]),
    ("stored_output", .dict [("classification", .str "c"), ("confidence", .num confidence),
      ("flags", .list []), ("rationale", .str "")]),
    ("mapping_commitment_sha256", sampleDigest)]

/-- A source preimage for the card. -/
def samplePreimage : Fields :=
  [("canonical_encoding_version", .str encodingVersion), ("protocol_id", .str "p"),
    ("amendment_id", .str "a"), ("package_id", .str "k"), ("bundle_review_id", sampleDigest),
    ("reviewer_unit_id", sampleDigest), ("source_artifact_sha256", sampleDigest),
    ("raw_output_slice_sha256", sampleDigest), ("exact_selector", .str "s"),
    ("context_sha256", sampleDigest), ("neutral_reference_sha256", sampleDigest),
    ("mapping_commitment_sha256", sampleDigest), ("independent_unit_nonce", sampleDigest)]

/-- The sample card is built whatever the hash, if its payload is a card that prints. -/
lemma exists_built_sampleCard {hash : String → String} {confidence : Number}
    (hdigest : ∀ t, isDigest (hash t) = true)
    (hkeys : (Tree.dict (sampleCard confidence)).keysOk distinct = true)
    (hcard : (checkCard (.dict (sampleCard confidence))).isOk = true) :
    ∃ text framed cardText, Built hash (sampleCard confidence) samplePreimage text framed cardText ∧
      buildCard hash (.dict (sampleCard confidence)) (.dict samplePreimage) =
        .ok (.dict (builtCard hash (sampleCard confidence) framed),
          .dict (builtSidecar hash samplePreimage text cardText)) := by
  have hnew : "source_link_commitment_sha256" ∉ (sampleCard confidence).map Prod.fst := by
    have hnames : (sampleCard confidence).map Prod.fst = cardFields := rfl
    rw [hnames]
    decide
  have hpop : (sampleCard confidence).pop "source_link_commitment_sha256" =
      sampleCard confidence := pop_of_notMem hnew
  obtain ⟨hisCard, text, htext⟩ : IsCard (sampleCard confidence) ∧
      ∃ text, exactJson (.dict (sampleCard confidence)) = some text := by
    cases hcheck : checkCard (.dict (sampleCard confidence)) with
    | error e =>
        rw [hcheck] at hcard
        cases hcard
    | ok u => exact checkCard_eq_ok.mp hcheck
  have hpreimageKeys : (Tree.dict samplePreimage).keysOk distinct = true := by decide
  have heach : ∀ e ∈ samplePreimage, (validateField e.1 e.2).isOk = true := by decide
  have hvalid : IsValid .sourceLink (samplePreimage.set "payload_sha256" (.str (hash text))) := by
    refine isValid_link hpreimageKeys (by decide) (fun n hn => ?_)
      ⟨_, rfl, isText_iff.mpr rfl⟩ (fun field hfield => ?_) (fun e he => ?_) (hdigest text)
    · have hnone : (Tree.dict samplePreimage).numbers = [] := rfl
      rw [hnone] at hn
      cases hn
    · have hall : ∀ field ∈ ["protocol_id", "amendment_id", "package_id"],
          (samplePreimage.lookup field).any isName = true := by
        decide
      have hany := hall field hfield
      rwa [Option.any_eq_true] at hany
    · have hok := heach e he
      cases hcheck : validateField e.1 e.2 with
      | error e' =>
          rw [hcheck] at hok
          cases hok
      | ok u => rfl
  obtain ⟨encoded, hencoded⟩ := hvalid.encoded
  have hlink : frame .sourceLink (.dict (samplePreimage.set "payload_sha256" (.str (hash text)))) =
      .ok (Operation.sourceLink.domain ++ "\x00" ++ encoded) :=
    frame_eq_ok.mpr ⟨_, encoded, validate_eq_ok.mpr ⟨rfl, hvalid⟩, hencoded, rfl⟩
  obtain ⟨cardText, hcardText⟩ : ∃ cardText, exactJson (.dict (builtCard hash (sampleCard confidence)
      (Operation.sourceLink.domain ++ "\x00" ++ encoded))) = some cardText := by
    refine (exists_exactJson (keysOk_builtCard hkeys)).mpr fun n hn => ?_
    refine (exists_exactJson hkeys).mp ⟨text, htext⟩ n ?_
    have hmem := mem_numbers_set hn
    rwa [hpop] at hmem
  have hbuilt : Built hash (sampleCard confidence) samplePreimage text
      (Operation.sourceLink.domain ++ "\x00" ++ encoded) cardText := by
    refine ⟨fun v hv => ?_, ?_, ?_, hlink, hcardText⟩
    · rw [lookup_eq_none hnew] at hv
      cases hv
    · rw [hpop]
      exact hisCard
    · rw [hpop]
      exact htext
  refine ⟨text, _, cardText, hbuilt, buildCard_of_built hbuilt (lookup_eq_none hnew)
    (by decide) fun field hfield => ?_⟩
  simp only [sharedFields, List.mem_cons, List.not_mem_nil, or_false] at hfield
  rcases hfield with rfl | rfl | rfl | rfl | rfl | rfl <;>
    exact ⟨_, _, rfl, rfl, by decide⟩

/-- The confidence `Decimal("-0")`. -/
def negativeZero : Number := .decimal (.finite true 0 0)

/-- The characters a value is printed as. -/
def printed (v : Evidence) : Option (List Char) :=
  (v.sort.convert some Number.token).map fun t => t.print textWriter

lemma printed_eq {v : Evidence} {text : String} (h : exactJson v = some text) :
    printed v = some text.toList := by
  obtain ⟨t, ht, rfl⟩ := exactJson_eq_some.mp h
  rw [printed, ht, Option.map_some, String.toList_ofList]

/-- The digits of the digest of a text. -/
def digitsOf (cs : List Char) : List Char := (digestWords (encodeChars cs)).flatMap hexNumber

/-- `-0` is read back as `0`, and the digests of the two texts differ. -/
lemma separates_negativeZero : Separates sha256Hex
    (.dict ((sampleCard negativeZero).pop "source_link_commitment_sha256")) := by
  intro text w text' htext hw htext' hhash
  have hback : Tree.convert some Number.readBack (Tree.sort _) = some w :=
    (readsBack_iff htext).mp hw
  have hdigests : (printed (.dict ((sampleCard negativeZero).pop
      "source_link_commitment_sha256"))).map digitsOf ≠
      (((Tree.dict ((sampleCard negativeZero).pop
        "source_link_commitment_sha256")).sort.convert some Number.readBack).bind printed).map
          digitsOf := by
    decide +kernel
  rw [hback, Option.bind_some, printed_eq htext, printed_eq htext'] at hdigests
  rw [sha256Hex_eq, sha256Hex_eq] at hhash
  exact absurd (congrArg some (String.ofList_injective hhash).symm) hdigests

/-- A card of confidence `-0` is built and accepted, but not once it is read back. -/
theorem not_acceptedReadBack_negativeZero : ∃ card sidecar commitment,
    buildCard sha256Hex (.dict (sampleCard negativeZero)) (.dict samplePreimage) =
      .ok (.dict card, sidecar) ∧
    card.lookup "source_link_commitment_sha256" = some (.str commitment) ∧
    verifySourceLink sha256Hex sidecar commitment (some (.dict card)) [] = .ok () ∧
    ¬ AcceptedReadBack sha256Hex (.dict card) sidecar commitment [] := by
  obtain ⟨text, framed, cardText, hbuilt, hbuild⟩ :=
    @exists_built_sampleCard _ negativeZero isDigest_sha256Hex (by decide)
      (by decide +kernel)
  have hused : ∀ nonce ∈ ([] : List String), isDigest nonce = true := fun _ h => by cases h
  have hnonce : ∀ v, samplePreimage.lookup "independent_unit_nonce" = some v →
      ∀ nonce ∈ ([] : List String), isText nonce v = false := fun _ _ _ h => by cases h
  refine ⟨_, _, sha256Hex framed, hbuild, lookup_builtCard,
    verifySourceLink_eq_ok.mpr (hbuilt.accepts isDigest_sha256Hex hused hnonce), ?_⟩
  rw [hbuilt.acceptedReadBack_iff (by decide) (by decide) isDigest_sha256Hex
    hused hnonce separates_negativeZero]
  intro hsafe
  have hmem : negativeZero ∈ (Tree.dict (sampleCard negativeZero)).numbers :=
    List.mem_cons_of_mem _ List.mem_cons_self
  exact (hsafe negativeZero hmem rfl).1 ⟨rfl, rfl⟩

/-- A confidence of `0.5`. -/
def half : Number := .decimal (.finite false 5 (-1))

lemma safe_sampleCard_half : ∀ n ∈ (Tree.dict (sampleCard half)).numbers, n.Safe := by
  have hnumbers : (Tree.dict (sampleCard half)).numbers = [.int 1, half] := rfl
  rw [hnumbers]
  intro n hn
  rcases List.mem_pair.mp hn with rfl | rfl
  · exact readableInt_iff.mpr (lt_of_lt_of_le (by decide) (Nat.le_self_pow (by decide) 10))
  · intro h
    exact absurd h (by decide)

/-- A card of confidence `0.5` is accepted once it is read back. -/
theorem card_law_half : ∃ card sidecar commitment,
    buildCard sha256Hex (.dict (sampleCard half)) (.dict samplePreimage) = .ok (card, sidecar) ∧
    AcceptedReadBack sha256Hex card sidecar commitment [] := by
  obtain ⟨_, _, _, hbuilt, hbuild⟩ :=
    @exists_built_sampleCard _ half isDigest_sha256Hex (by decide)
      (by decide +kernel)
  obtain ⟨commitment, -, -, hround⟩ := (card_law sha256Hex isDigest_sha256Hex).1 (sampleCard half)
    samplePreimage _ _ [] (by decide) (by decide) hbuild (fun _ h => by cases h)
    (fun _ _ _ h => by cases h)
  refine ⟨_, _, commitment, hbuild, (hround ?_).mpr safe_sampleCard_half⟩
  intro text w text' htext hw htext' _
  obtain ⟨t, u, ht, hu, hagain⟩ := (@reprints_iff (.dict ((sampleCard half).pop
    "source_link_commitment_sha256")) (by decide)).mpr fun n hn =>
      safe_sampleCard_half n ((hbuilt.mem_numbers (by decide)).mp hn)
  obtain rfl := Option.some.inj (ht.symm.trans htext)
  obtain rfl := Option.some.inj (hu.symm.trans ((readsBack_iff htext).mp hw))
  exact Option.some.inj (htext'.symm.trans hagain)

end CivicGate.Rq6.Crypto
