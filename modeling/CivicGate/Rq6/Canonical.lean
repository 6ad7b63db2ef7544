import CivicGate.Rq6.ExactLaw
import CivicGate.Framework.Exceptions

/-!
# Canonical JSON

The metadata encoder of `rq6/crypto.py` and what Python's `==` makes of metadata.  Two values of
one encoding are the same but for the order of their keys (`sort_eq_of_canonicalJson`), while
`==` also takes `True` for `1`.

A string with a lone surrogate is no `Evidence`: `canonical_json` rejects it.
-/

namespace CivicGate.Rq6.Crypto

/-- What a commitment check raises. -/
inductive Raised
  /-- `RQ6Error(code)` -/
  | rq6 (code : String)
  | keyError (key : String)
  /-- `str` of an integer of too many digits. -/
  | valueError
  deriving DecidableEq

/-- `require(condition, code)` -/
abbrev require (condition : Bool) (code : String) : Except Raised Unit :=
  ensure condition (.rq6 code)

/-- `if condition: x` -/
def onlyIf (condition : Bool) (x : Except Raised Unit) : Except Raised Unit :=
  if condition then x else .ok ()

lemma onlyIf_eq_ok {condition : Bool} {x : Except Raised Unit} {u : Unit} :
    onlyIf condition x = .ok u ↔ (condition = true → x = .ok ()) := by
  cases condition <;> simp [onlyIf]

/-- The entries of a dictionary. -/
abbrev Fields := List (String × Evidence)

/-- `value[key]` -/
def Fields.item (fields : Fields) (key : String) : Except Raised Evidence :=
  (fields.lookup key).elim (.error (.keyError key)) .ok

@[simp] lemma Fields.item_eq_ok {fields : Fields} {key : String} {v : Evidence} :
    fields.item key = .ok v ↔ fields.lookup key = some v := by
  cases h : fields.lookup key <;> simp [Fields.item, h]

/-- `set(value) == set(keys)` -/
def Fields.hasKeys (fields : Fields) (keys : List String) : Bool :=
  (fields.map Prod.fst).all (· ∈ keys) && keys.all (· ∈ fields.map Prod.fst)

/-- The entries of a value that is a `dict`. -/
def asDict (code : String) : Evidence → Except Raised Fields
  | .dict fields => .ok fields
  | _ => .error (.rq6 code)

/-- The items of a value that is a `list`. -/
def asList (code : String) : Evidence → Except Raised (List Evidence)
  | .list items => .ok items
  | _ => .error (.rq6 code)

@[simp] lemma asDict_eq_ok {code : String} {v : Evidence} {fields : Fields} :
    asDict code v = .ok fields ↔ v = .dict fields := by
  cases v <;> simp [asDict]

@[simp] lemma asList_eq_ok {code : String} {v : Evidence} {items : List Evidence} :
    asList code v = .ok items ↔ v = .list items := by
  cases v <;> simp [asList]

/-- `value == text` -/
def isText (text : String) : Evidence → Bool
  | .str s => s = text
  | _ => false

/-- A nonempty `str`. -/
def isName : Evidence → Bool
  | .str s => s ≠ ""
  | _ => false

/-- A positive `int`. -/
def isPosition : Evidence → Bool
  | .num (.int n) => 0 < n
  | _ => false

/-! ## The metadata encoder -/

mutual
/-- `_metadata(value, active)`; an `Evidence` has no cycle. -/
def metadata : Evidence → Except Raised Unit
  | .null | .bool _ | .str _ => .ok ()
  | .num (.int n) => require (0 ≤ n) "NEGATIVE_METADATA_INTEGER"
  | .num _ => .error (.rq6 "UNSUPPORTED_COMMITMENT_METADATA_TYPE")
  | .list items => metadataItems items
  | .dict fields => metadataEntries fields
/-- `_metadata` of each item. -/
def metadataItems : List Evidence → Except Raised Unit
  | [] => .ok ()
  | v :: items => do
    metadata v
    metadataItems items
/-- `_metadata` of each value. -/
def metadataEntries : List (String × Evidence) → Except Raised Unit
  | [] => .ok ()
  | (_, v) :: fields => do
    metadata v
    metadataEntries fields
end

/-- `canonical_json(value)`: what `json.dumps` prints for metadata, with its keys in order and no
blanks, is what `exact_json` prints. -/
def canonicalJson (v : Evidence) : Except Raised String := do
  metadata v
  (exactJson v).elim (.error .valueError) .ok

lemma canonicalJson_eq_ok {v : Evidence} {text : String} :
    canonicalJson v = .ok text ↔ metadata v = .ok () ∧ exactJson v = some text := by
  unfold canonicalJson
  rw [Except.bind_eq_ok]
  constructor
  · rintro ⟨⟨⟩, hmetadata, htext⟩
    cases h : exactJson v with
    | none => simp [h] at htext
    | some text' =>
        rw [h] at htext
        exact ⟨hmetadata, congrArg some (Except.ok.inj htext)⟩
  · rintro ⟨hmetadata, htext⟩
    exact ⟨(), hmetadata, by rw [htext]; rfl⟩

/-- A natural number that Python prints. -/
def IsMetadata (n : Number) : Prop := ∃ i : ℤ, n = .int i ∧ 0 ≤ i ∧ readableInt i = true

mutual
lemma metadata_eq_ok : ∀ v : Evidence,
    metadata v = .ok () ↔ ∀ n ∈ v.numbers, ∃ i : ℤ, n = .int i ∧ 0 ≤ i
  | .null | .bool _ | .str _ => by simp [metadata, Tree.numbers]
  | .num (.int n) => by simp [metadata, Tree.numbers]
  | .num (.exact _) | .num (.decimal _) | .num (.float _) => by simp [metadata, Tree.numbers]
  | .list items => metadataItems_eq_ok items
  | .dict fields => metadataEntries_eq_ok fields
lemma metadataItems_eq_ok : ∀ items : List Evidence,
    metadataItems items = .ok () ↔ ∀ n ∈ Tree.numbersItems items, ∃ i : ℤ, n = .int i ∧ 0 ≤ i
  | [] => by simp [metadataItems, Tree.numbersItems]
  | v :: items => by
      rw [metadataItems, Except.bind_eq_ok, Tree.numbersItems, List.forall_mem_append,
        ← metadata_eq_ok v, ← metadataItems_eq_ok items]
      exact ⟨fun ⟨_, hv, hitems⟩ => ⟨hv, hitems⟩, fun ⟨hv, hitems⟩ => ⟨_, hv, hitems⟩⟩
lemma metadataEntries_eq_ok : ∀ fields : List (String × Evidence),
    metadataEntries fields = .ok () ↔
      ∀ n ∈ Tree.numbersEntries fields, ∃ i : ℤ, n = .int i ∧ 0 ≤ i
  | [] => by simp [metadataEntries, Tree.numbersEntries]
  | (k, v) :: fields => by
      rw [metadataEntries, Except.bind_eq_ok, Tree.numbersEntries, List.forall_mem_append,
        ← metadata_eq_ok v, ← metadataEntries_eq_ok fields]
      exact ⟨fun ⟨_, hv, hfields⟩ => ⟨hv, hfields⟩, fun ⟨hv, hfields⟩ => ⟨_, hv, hfields⟩⟩
end

/-- A value prints if its numbers do. -/
lemma exists_exactJson {v : Evidence} (hkeys : v.keysOk distinct = true) :
    (∃ text, exactJson v = some text) ↔ ∀ n ∈ v.numbers, (Number.token n).isSome = true := by
  rw [← Option.isSome_iff_exists, exactJson, Option.isSome_map, Tree.isSome_convert,
    List.all_eq_true]
  exact forall_congr' fun n => by rw [Tree.mem_numbers_sort v hkeys]

/-- Metadata is encoded, and nothing else is. -/
lemma exists_canonicalJson {v : Evidence} (hkeys : v.keysOk distinct = true) :
    (∃ text, canonicalJson v = .ok text) ↔ ∀ n ∈ v.numbers, IsMetadata n := by
  simp only [canonicalJson_eq_ok, exists_and_left, exists_exactJson hkeys, metadata_eq_ok]
  rw [← forall₂_and]
  refine forall₂_congr fun n _ => ?_
  constructor
  · rintro ⟨⟨i, rfl, hi⟩, htoken⟩
    obtain ⟨t, ht⟩ := Option.isSome_iff_exists.mp htoken
    have hchars := Number.token_eq_some.mp ht
    simp only [Number.chars, Option.ite_none_right_eq_some] at hchars
    exact ⟨i, rfl, hi, hchars.1⟩
  · rintro ⟨i, rfl, hi, hreadable⟩
    obtain ⟨t, ht, -⟩ := @Number.exists_token (.int i) _ (if_pos hreadable)
    exact ⟨⟨i, rfl, hi⟩, Option.isSome_iff_exists.mpr ⟨t, ht⟩⟩

/-- Values of one encoding are the same when sorted. -/
lemma sort_eq_of_canonicalJson {v w : Evidence} {text : String}
    (hv : v.keysOk distinct = true) (hw : w.keysOk distinct = true)
    (h : canonicalJson v = .ok text) (h' : canonicalJson w = .ok text) : v.sort = w.sort := by
  have hself : ∀ u : Evidence, u.keysOk distinct = true → canonicalJson u = .ok text →
      u.sort.convert some Number.readBack = some u.sort := by
    intro u hu htext
    refine (Tree.convert_eq_self u.sort).mpr fun n hn => ?_
    obtain ⟨i, rfl, -, hreadable⟩ :=
      (exists_canonicalJson hu).mp ⟨text, htext⟩ n ((Tree.mem_numbers_sort u hu).mp hn)
    exact Number.readBack_int hreadable
  obtain ⟨t, ht, hprint⟩ := exactJson_eq_some.mp (canonicalJson_eq_ok.mp h).2
  obtain ⟨t', ht', hprint'⟩ := exactJson_eq_some.mp (canonicalJson_eq_ok.mp h').2
  obtain rfl := print_injective (hprint.trans hprint'.symm)
  have hback := hself v hv h
  have hback' := hself w hw h'
  rw [convert_readBack, ht] at hback
  rw [convert_readBack, ht'] at hback'
  exact Option.some.inj (hback.symm.trans hback')

/-- The encoding does not depend on the order of keys. -/
lemma canonicalJson_of_sort_eq {v w : Evidence} {text : String} (hv : v.keysOk distinct = true)
    (hw : w.keysOk distinct = true) (hsort : v.sort = w.sort) (h : canonicalJson v = .ok text) :
    canonicalJson w = .ok text := by
  obtain ⟨text', htext'⟩ := (exists_canonicalJson hw).mpr fun n hn => by
    rw [← Tree.mem_numbers_sort w hw, ← hsort, Tree.mem_numbers_sort v hv] at hn
    exact (exists_canonicalJson hv).mp ⟨text, h⟩ n hn
  have hsame : exactJson v = exactJson w := by
    rw [exactJson, exactJson, hsort]
  rw [(canonicalJson_eq_ok.mp h).2, (canonicalJson_eq_ok.mp htext').2] at hsame
  rw [htext', Option.some.inj hsame]

/-! ## Python's equality -/

lemma agreeEntries_iff {fields fields' : Fields} : Evidence.agreeEntries fields fields' = true ↔
    List.Forall₂ (fun e e' => e.1 = e'.1 ∧ Evidence.agree e.2 e'.2 = true) fields fields' := by
  induction fields generalizing fields' with
  | nil => cases fields' <;> simp [Evidence.agreeEntries]
  | cons e fields ih =>
      cases fields' with
      | nil => simp [Evidence.agreeEntries]
      | cons e' fields' => simp [Evidence.agreeEntries, ih]

/-- Dictionaries are equal if what their keys name is. -/
lemma eq_dict_iff {fields fields' : Fields} (h : (fields.map Prod.fst).Nodup)
    (h' : (fields'.map Prod.fst).Nodup) :
    Evidence.eq (.dict fields) (.dict fields') = true ↔
      ∀ k, Option.Rel (fun v w => Evidence.eq v w = true) (fields.lookup k)
        (fields'.lookup k) := by
  have hrel := @forall₂_iff_lookup _ _ (fun v w => Evidence.agree v w = true) _ _
    (Tree.inOrder_sortEntries fields).1 (Tree.inOrder_sortEntries fields').1
  rw [Evidence.eq, Tree.sort, Tree.sort, Evidence.agree, agreeEntries_iff, hrel]
  refine forall_congr' fun k => ?_
  rw [Tree.lookup_sortEntries h, Tree.lookup_sortEntries h']
  cases fields.lookup k <;> cases fields'.lookup k <;> simp [Evidence.eq]

/-- Numbers are compared both ways alike. -/
lemma numAgree_comm (x y : Option ℚ) :
    (x.isSome && decide (x = y)) = (y.isSome && decide (y = x)) := by
  by_cases h : x = y
  · rw [h]
  · simp [h, Ne.symm h]

mutual
lemma agree_comm : ∀ v w : Evidence, Evidence.agree v w = Evidence.agree w v
  | .list vs, w => by
      cases w with
      | list ws => exact agreeItems_comm vs ws
      | _ =>
          simp only [Evidence.agree]
          exact numAgree_comm _ _
  | .dict vs, w => by
      cases w with
      | dict ws => exact agreeEntries_comm vs ws
      | _ =>
          simp only [Evidence.agree]
          exact numAgree_comm _ _
  | .str s, w => by
      cases w with
      | str s' => simp only [Evidence.agree, @eq_comm _ s s']
      | _ =>
          simp only [Evidence.agree]
          exact numAgree_comm _ _
  | .null, w => by
      cases w with
      | null => rfl
      | _ =>
          simp only [Evidence.agree]
          exact numAgree_comm _ _
  | .bool _, w | .num _, w => by
      cases w <;>
        · simp only [Evidence.agree]
          exact numAgree_comm _ _
lemma agreeItems_comm : ∀ vs ws : List Evidence,
    Evidence.agreeItems vs ws = Evidence.agreeItems ws vs
  | [], [] | [], _ :: _ | _ :: _, [] => by simp [Evidence.agreeItems]
  | v :: vs, w :: ws => by
      rw [Evidence.agreeItems, Evidence.agreeItems, agree_comm v w, agreeItems_comm vs ws]
lemma agreeEntries_comm : ∀ vs ws : List (String × Evidence),
    Evidence.agreeEntries vs ws = Evidence.agreeEntries ws vs
  | [], [] | [], _ :: _ | _ :: _, [] => by simp [Evidence.agreeEntries]
  | (k, v) :: vs, (l, w) :: ws => by
      rw [Evidence.agreeEntries, Evidence.agreeEntries, agree_comm v w, agreeEntries_comm vs ws,
        decide_eq_decide.mpr (@eq_comm _ k l)]
end


lemma eq_comm_of_evidence (v w : Evidence) : Evidence.eq v w = Evidence.eq w v :=
  agree_comm v.sort w.sort

mutual
lemma agree_self : ∀ v : Evidence, (∀ n ∈ v.numbers, n.value?.isSome = true) →
    Evidence.agree v v = true
  | .null, _ => rfl
  | .bool _, _ => by simp [Evidence.agree, Evidence.num?]
  | .num n, h => by
      simp [Evidence.agree, Evidence.num?, h n (List.mem_singleton_self n)]
  | .str _, _ => by simp [Evidence.agree]
  | .list items, h => agreeItems_self items h
  | .dict fields, h => agreeEntries_self fields h
lemma agreeItems_self : ∀ items : List Evidence,
    (∀ n ∈ Tree.numbersItems items, n.value?.isSome = true) →
    Evidence.agreeItems items items = true
  | [], _ => rfl
  | v :: items, h => by
      rw [Tree.numbersItems, List.forall_mem_append] at h
      rw [Evidence.agreeItems, agree_self v h.1, agreeItems_self items h.2]
      rfl
lemma agreeEntries_self : ∀ fields : List (String × Evidence),
    (∀ n ∈ Tree.numbersEntries fields, n.value?.isSome = true) →
    Evidence.agreeEntries fields fields = true
  | [], _ => rfl
  | (k, v) :: fields, h => by
      rw [Tree.numbersEntries, List.forall_mem_append] at h
      rw [Evidence.agreeEntries, agree_self v h.1, agreeEntries_self fields h.2]
      simp
end

/-- What has an encoding equals itself. -/
lemma eq_self_of_canonicalJson {v : Evidence} {text : String} (hv : v.keysOk distinct = true)
    (h : canonicalJson v = .ok text) : Evidence.eq v v = true := by
  refine agree_self v.sort fun n hn => ?_
  obtain ⟨i, rfl, -⟩ :=
    (exists_canonicalJson hv).mp ⟨text, h⟩ n ((Tree.mem_numbers_sort v hv).mp hn)
  rfl

end CivicGate.Rq6.Crypto
