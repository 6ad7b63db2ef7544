import CivicGate.Rq6.Crypto

/-!
# Alias assignment

`ordered_aliases` names every selector of a bundle by exactly one side, in an order that only the
keyed digests decide.  `verify_mapping_assignment` accepts the aliases that are this assignment up
to encodings, and others only where two selectors of different encodings are equal to Python, as
`True` and `1` are (`aliasAssignment_law`).
-/

namespace CivicGate.Rq6.Crypto

/-! ## Sides -/

lemma sideName_injective : Function.Injective sideName := by
  intro i j h
  have hchars := congrArg String.toList h
  simp only [sideName, String.toList_append, String.toList_ofList] at hchars
  have hdigits := congrArg natOfDigits (List.append_cancel_left hchars)
  rw [natOfDigits_toDigits, natOfDigits_toDigits] at hdigits
  omega

lemma nodup_sideNames (n : ℕ) : ((List.range n).map sideName).Nodup :=
  List.nodup_range.map sideName_injective

lemma keys_nameSides (sources : List Evidence) :
    (nameSides sources).map Prod.fst = (List.range sources.length).map sideName := by
  rw [nameSides, List.map_map, List.range_eq_range', ← List.zipIdx_map_snd 0 sources,
    List.map_map]
  rfl

lemma values_nameSides (sources : List Evidence) :
    (nameSides sources).map Prod.snd = sources := by
  rw [nameSides, List.map_map]
  exact List.zipIdx_map_fst 0 sources

/-- The aliases name each source by one side, and different sources differ in their encodings. -/
structure IsAssignment (aliases : Fields) (sources : List Evidence) : Prop where
  sides : aliases.map Prod.fst = (List.range sources.length).map sideName
  values : (aliases.map Prod.snd).Perm sources
  encodings : (sources.map canonicalJson).Nodup

/-! ## Rows -/

section

variable (hmac : Bytes → String → Bytes)

/-- The row of a preimage whose bundle has this metadata. -/
def IsRow (key : Bytes) (current : String) (preimage : Evidence) (r : Row) : Prop :=
  ∃ fields, validate .aliasAssignment preimage = .ok fields ∧
    canonicalJson (bundleMetadata fields) = .ok current ∧ row hmac key fields preimage = .ok r

variable {hmac} {key : Bytes}

/-- The loop takes exactly the preimages of one bundle. -/
lemma rows_eq_ok {preimages : List Evidence} {rs : List Row} {current : String} :
    rows hmac key (some current) preimages = .ok rs ↔
      List.Forall₂ (IsRow hmac key current) preimages rs := by
  induction preimages generalizing rs with
  | nil => rw [rows, Except.pure_eq_ok, List.forall₂_nil_left_iff, eq_comm]
  | cons preimage preimages ih =>
      simp only [rows, Except.bind_eq_ok, Except.pure_eq_ok, ensure_eq_ok, Option.all_some,
        decide_eq_true_eq, List.forall₂_cons_left_iff]
      constructor
      · rintro ⟨fields, hfields, metadata, hmetadata, -, rfl, first, hfirst, rest, hrest, rfl⟩
        exact ⟨first, rest, ⟨fields, hfields, hmetadata, hfirst⟩, ih.mp hrest, rfl⟩
      · rintro ⟨first, rest, ⟨fields, hfields, hmetadata, hfirst⟩, hrest, rfl⟩
        exact ⟨fields, hfields, current, hmetadata, (), rfl, first, hfirst, rest, ih.mpr hrest,
          rfl⟩

/-- The first preimage decides the metadata of the bundle. -/
lemma rows_none_eq_ok {preimages : List Evidence} {rs : List Row} (hne : preimages ≠ []) :
    rows hmac key none preimages = .ok rs ↔
      ∃ current, List.Forall₂ (IsRow hmac key current) preimages rs := by
  obtain ⟨preimage, preimages, rfl⟩ := List.exists_cons_of_ne_nil hne
  simp only [rows, Except.bind_eq_ok, Except.pure_eq_ok, ensure_eq_ok, Option.all_none,
    rows_eq_ok, List.forall₂_cons_left_iff, true_and]
  constructor
  · rintro ⟨fields, hfields, current, hcurrent, -, first, hfirst, rest, hrest, rfl⟩
    exact ⟨current, first, rest, ⟨fields, hfields, hcurrent, hfirst⟩, hrest, rfl⟩
  · rintro ⟨current, first, rest, ⟨fields, hfields, hcurrent, hfirst⟩, hrest, rfl⟩
    exact ⟨fields, hfields, current, hcurrent, (), first, hfirst, rest, hrest, rfl⟩

lemma orderedAliases_eq_ok {seed : Seed} {preimages : List Evidence} {aliases : Fields} :
    orderedAliases hmac seed preimages = .ok aliases ↔
      preimages ≠ [] ∧ ∃ key current rs, seed.key = .ok key ∧
        List.Forall₂ (IsRow hmac key current) preimages rs ∧ (rs.map Row.encoded).Nodup ∧
          (rs.map Row.digest).Nodup ∧
            nameSides ((sortRows rs).map Row.selector) = aliases := by
  simp only [orderedAliases, Except.bind_eq_ok, Except.pure_eq_ok, ensure_eq_ok,
    decide_eq_true_eq, ne_eq, List.length_eq_zero_iff]
  constructor
  · rintro ⟨-, hne, key, hkey, rs, hrs, -, hencoded, -, hdigest, rfl⟩
    obtain ⟨current, hrows⟩ := (rows_none_eq_ok hne).mp hrs
    exact ⟨hne, key, current, rs, hkey, hrows, hencoded, hdigest, rfl⟩
  · rintro ⟨hne, key, current, rs, hkey, hrows, hencoded, hdigest, rfl⟩
    exact ⟨(), hne, key, hkey, rs, (rows_none_eq_ok hne).mpr ⟨current, hrows⟩, (), hencoded, (),
      hdigest, rfl⟩

/-- Without ties the order of the rows does not show once they are sorted. -/
lemma sortRows_of_perm {rs rs' : List Row} (h : rs.Perm rs') (hnodup : (rs.map Row.digest).Nodup) :
    sortRows rs = sortRows rs' := by
  have hperm := List.perm_insertionSort (fun r r' : Row => r.digest ≤ r'.digest) rs
  have hperm' := List.perm_insertionSort (fun r r' : Row => r.digest ≤ r'.digest) rs'
  refine List.Perm.eq_of_pairwise (fun a b ha hb hab hba => ?_)
    (List.pairwise_insertionSort _ rs) (List.pairwise_insertionSort _ rs')
    ((hperm.trans h).trans hperm'.symm)
  exact List.inj_on_of_nodup_map hnodup (hperm.mem_iff.mp ha)
    (h.mem_iff.mpr (hperm'.mem_iff.mp hb)) (le_antisymm hab hba)

/-- The aliases do not depend on the order of the preimages. -/
lemma orderedAliases_perm {seed : Seed} {preimages preimages' : List Evidence} {aliases : Fields}
    (hperm : preimages'.Perm preimages) (h : orderedAliases hmac seed preimages = .ok aliases) :
    orderedAliases hmac seed preimages' = .ok aliases := by
  obtain ⟨hne, key, current, rs, hkey, hrows, hencoded, hdigest, rfl⟩ := orderedAliases_eq_ok.mp h
  obtain ⟨rs', hrows', hrs⟩ := List.perm_comp_forall₂ hperm hrows
  refine orderedAliases_eq_ok.mpr ⟨fun hnil => hne ?_, key, current, rs', hkey, hrows',
    (hrs.map _).nodup_iff.mpr hencoded, (hrs.map _).nodup_iff.mpr hdigest, ?_⟩
  · rw [hnil] at hperm
    exact hperm.symm.eq_nil
  · rw [sortRows_of_perm hrs.symm hdigest]

lemma row_eq_ok {fields : Fields} {preimage : Evidence} {r : Row} :
    row hmac key fields preimage = .ok r ↔
      fields.lookup "source_slot_selector" = some r.selector ∧
        canonicalJson r.selector = .ok r.encoded ∧
          keyed hmac key .aliasAssignment preimage = .ok r.digest := by
  simp only [row, Except.bind_eq_ok, Except.pure_eq_ok, Fields.item_eq_ok]
  constructor
  · rintro ⟨source, hsource, encoded, hencoded, digest, hdigest, rfl⟩
    exact ⟨hsource, hencoded, hdigest⟩
  · rintro ⟨hsource, hencoded, hdigest⟩
    exact ⟨_, hsource, _, hencoded, _, hdigest, rfl⟩

/-! ## Encodings -/

/-- The metadata of a bundle and the selector of a slot determine the preimage. -/
lemma sort_eq_of_bundleMetadata {fields fields' : Fields} {source source' : Evidence}
    (hkeys : (Tree.dict fields).keysOk distinct = true)
    (hkeys' : (Tree.dict fields').keysOk distinct = true)
    (hmetadata : (bundleMetadata fields).sort = (bundleMetadata fields').sort)
    (hsource : fields.lookup "source_slot_selector" = some source)
    (hsource' : fields'.lookup "source_slot_selector" = some source')
    (h : source.sort = source'.sort) :
    (Tree.dict fields).sort = (Tree.dict fields').sort := by
  have hnodup := distinct_iff.mp (Bool.and_eq_true_iff.mp hkeys).1
  have hnodup' := distinct_iff.mp (Bool.and_eq_true_iff.mp hkeys').1
  have hfilter : ∀ {l : Fields}, (l.map Prod.fst).Nodup →
      ((l.filter fun e => e.1 ≠ "source_slot_selector").map Prod.fst).Nodup := fun hl =>
    hl.sublist (List.filter_sublist.map _)
  have hrest := (Tree.sort_dict_eq_iff (hfilter hnodup) (hfilter hnodup')).mp hmetadata
  refine (Tree.sort_dict_eq_iff hnodup hnodup').mpr fun k => ?_
  by_cases hk : k = "source_slot_selector"
  · rw [hk, hsource, hsource']
    exact congrArg some h
  · have hlookup := hrest k
    rw [lookup_filter_of_ne hk, lookup_filter_of_ne hk] at hlookup
    exact hlookup

lemma keysOk_bundleMetadata {fields : Fields} (h : (Tree.dict fields).keysOk distinct = true) :
    (bundleMetadata fields).keysOk distinct = true := by
  obtain ⟨hnodup, hall⟩ := Bool.and_eq_true_iff.mp h
  refine Bool.and_eq_true_iff.mpr ⟨distinct_iff.mpr ?_, Tree.keysOkEntries_iff.mpr fun e he => ?_⟩
  · exact (distinct_iff.mp hnodup).sublist (List.filter_sublist.map _)
  · exact Tree.keysOkEntries_iff.mp hall e (List.mem_of_mem_filter he)

/-- Slots of one bundle with one encoding have one digest. -/
lemma IsRow.digest_eq {current : String} {preimage preimage' : Evidence} {r r' : Row}
    (hkeys : preimage.keysOk distinct = true) (hkeys' : preimage'.keysOk distinct = true)
    (h : IsRow hmac key current preimage r) (h' : IsRow hmac key current preimage' r')
    (hencoded : r.encoded = r'.encoded) : r.digest = r'.digest := by
  obtain ⟨fields, hvalid, hmetadata, hrow⟩ := h
  obtain ⟨fields', hvalid', hmetadata', hrow'⟩ := h'
  obtain ⟨rfl, -⟩ := validate_eq_ok.mp hvalid
  obtain ⟨rfl, -⟩ := validate_eq_ok.mp hvalid'
  obtain ⟨hsource, htext, hdigest⟩ := row_eq_ok.mp hrow
  obtain ⟨hsource', htext', hdigest'⟩ := row_eq_ok.mp hrow'
  rw [← hencoded] at htext'
  have hsort := sort_eq_of_bundleMetadata hkeys hkeys'
    (sort_eq_of_canonicalJson (keysOk_bundleMetadata hkeys) (keysOk_bundleMetadata hkeys')
      hmetadata hmetadata') hsource hsource'
    (sort_eq_of_canonicalJson (keysOk_of_lookup hkeys hsource) (keysOk_of_lookup hkeys' hsource')
      htext htext')
  obtain ⟨text, hframe, hkeyed, -⟩ := keyed_eq_ok.mp hdigest
  obtain ⟨text', hframe', hkeyed', -⟩ := keyed_eq_ok.mp hdigest'
  obtain ⟨_, encoded, -, hjson, rfl⟩ := frame_eq_ok.mp hframe
  obtain ⟨_, encoded', -, hjson', rfl⟩ := frame_eq_ok.mp hframe'
  have hsame := canonicalJson_of_sort_eq hkeys hkeys' hsort hjson
  rw [← hkeyed, ← hkeyed', Except.ok.inj (hsame.symm.trans hjson')]

/-- The preimage is that of a slot with this selector. -/
def IsSource (preimage source : Evidence) : Prop :=
  ∃ fields, preimage = .dict fields ∧ fields.lookup "source_slot_selector" = some source

lemma IsRow.isSource {current : String} {preimage : Evidence} {r : Row}
    (h : IsRow hmac key current preimage r) : IsSource preimage r.selector := by
  obtain ⟨fields, hvalid, -, hrow⟩ := h
  exact ⟨fields, (validate_eq_ok.mp hvalid).1, (row_eq_ok.mp hrow).1⟩

lemma IsRow.canonicalJson_selector {current : String} {preimage : Evidence} {r : Row}
    (h : IsRow hmac key current preimage r) : canonicalJson r.selector = .ok r.encoded := by
  obtain ⟨fields, -, -, hrow⟩ := h
  exact (row_eq_ok.mp hrow).2.1

lemma IsRow.keyed_eq {current : String} {preimage : Evidence} {r : Row}
    (h : IsRow hmac key current preimage r) :
    keyed hmac key .aliasAssignment preimage = .ok r.digest := by
  obtain ⟨fields, -, -, hrow⟩ := h
  exact (row_eq_ok.mp hrow).2.2

/-- A preimage that passes the checks has a row. -/
lemma exists_row (hlength : ∀ k t, (hmac k t).length = 32) {current : String}
    {preimage : Evidence} {fields : Fields} (hkeys : preimage.keysOk distinct = true)
    (hvalid : validate .aliasAssignment preimage = .ok fields)
    (hmetadata : canonicalJson (bundleMetadata fields) = .ok current) :
    ∃ r, IsRow hmac key current preimage r := by
  obtain ⟨rfl, hfields⟩ := validate_eq_ok.mp hvalid
  have hmem : "source_slot_selector" ∈ fields.map Prod.fst :=
    (hasKeys_iff.mp hfields.keys _).mpr (by decide)
  obtain ⟨source, hsource⟩ := Option.isSome_iff_exists.mp (lookup_isSome.mpr hmem)
  obtain ⟨encoded, hencoded⟩ := exists_canonicalJson_of_lookup hkeys hfields.encoded hsource
  obtain ⟨text, htext⟩ := hfields.encoded
  have hkeyed := keyed_eq_ok.mpr ⟨_, frame_eq_ok.mpr ⟨fields, text, hvalid, htext, rfl⟩, rfl,
    hlength key _⟩
  exact ⟨⟨encoded, _, source⟩, fields, hvalid, hmetadata,
    row_eq_ok.mpr ⟨hsource, hencoded, hkeyed⟩⟩

lemma exists_of_forall₂ {α β : Type} {R : α → β → Prop} {as : List α} {bs : List β}
    (h : List.Forall₂ R as bs) {b : β} (hb : b ∈ bs) : ∃ a ∈ as, R a b := by
  induction h with
  | nil => cases hb
  | cons hab _ ih =>
      rcases List.mem_cons.mp hb with rfl | hb
      · exact ⟨_, List.mem_cons_self, hab⟩
      · obtain ⟨a, ha, hrel⟩ := ih hb
        exact ⟨a, List.mem_cons_of_mem _ ha, hrel⟩

lemma exists_forall₂ {α β : Type} {R : α → β → Prop} {as : List α} (h : ∀ a ∈ as, ∃ b, R a b) :
    ∃ bs, List.Forall₂ R as bs := by
  induction as with
  | nil => exact ⟨[], .nil⟩
  | cons a as ih =>
      obtain ⟨b, hb⟩ := h a List.mem_cons_self
      obtain ⟨bs, hbs⟩ := ih fun a ha => h a (List.mem_cons_of_mem _ ha)
      exact ⟨b :: bs, .cons hb hbs⟩

/-- The keyed digests of the rows are those of their preimages. -/
lemma map_keyed {current : String} {preimages : List Evidence} {rs : List Row}
    (h : List.Forall₂ (IsRow hmac key current) preimages rs) :
    preimages.map (keyed hmac key .aliasAssignment) = (rs.map Row.digest).map Except.ok := by
  have hdigests : List.Forall₂ Eq (preimages.map (keyed hmac key .aliasAssignment))
      ((rs.map Row.digest).map Except.ok) := by
    rw [List.map_map]
    exact List.forall₂_map_left_iff.mpr
      (List.forall₂_map_right_iff.mpr (h.imp fun _ _ hr => hr.keyed_eq))
  rwa [List.forall₂_eq_eq_eq] at hdigests

/-- The preimages of one bundle get their aliases if no two digests are the same. -/
lemma exists_orderedAliases (hlength : ∀ k t, (hmac k t).length = 32) {seed : Seed}
    (hseed : seed.key = .ok key) {preimages : List Evidence} (hne : preimages ≠ [])
    (hkeys : ∀ p ∈ preimages, p.keysOk distinct = true) {current : String}
    (hbundle : ∀ p ∈ preimages, ∃ fields, validate .aliasAssignment p = .ok fields ∧
      canonicalJson (bundleMetadata fields) = .ok current)
    (hties : (preimages.map (keyed hmac key .aliasAssignment)).Nodup) :
    ∃ aliases, orderedAliases hmac seed preimages = .ok aliases := by
  have hrow : ∀ p ∈ preimages, ∃ r, IsRow hmac key current p r := by
    intro p hp
    obtain ⟨fields, hvalid, hmetadata⟩ := hbundle p hp
    exact exists_row hlength (hkeys p hp) hvalid hmetadata
  obtain ⟨rs, hrs⟩ := exists_forall₂ hrow
  rw [map_keyed hrs] at hties
  have hdigest := List.Nodup.of_map _ hties
  have hinj : ∀ r ∈ rs, ∀ r' ∈ rs, r.encoded = r'.encoded → r = r' := by
    intro r hr r' hr' hencoded
    obtain ⟨p, hp, hpr⟩ := exists_of_forall₂ hrs hr
    obtain ⟨p', hp', hpr'⟩ := exists_of_forall₂ hrs hr'
    exact List.inj_on_of_nodup_map hdigest hr hr'
      (hpr.digest_eq (hkeys p hp) (hkeys p' hp') hpr' hencoded)
  exact ⟨_, orderedAliases_eq_ok.mpr ⟨hne, key, current, rs, hseed, hrs,
    (List.Nodup.of_map _ hdigest).map_on hinj, hdigest, rfl⟩⟩

/-- Aliases that are derived name each selector once. -/
lemma isAssignment_of_orderedAliases {seed : Seed} {preimages : List Evidence} {aliases : Fields}
    (h : orderedAliases hmac seed preimages = .ok aliases) :
    ∃ sources, List.Forall₂ IsSource preimages sources ∧ IsAssignment aliases sources := by
  obtain ⟨-, key, current, rs, -, hrs, hencoded, -, rfl⟩ := orderedAliases_eq_ok.mp h
  have hperm : ((sortRows rs).map Row.selector).Perm (rs.map Row.selector) :=
    (List.perm_insertionSort _ rs).map _
  refine ⟨rs.map Row.selector, List.forall₂_map_right_iff.mpr (hrs.imp fun _ _ hr => hr.isSource),
    ?_, ?_, ?_⟩
  · rw [keys_nameSides, hperm.length_eq]
  · rw [values_nameSides]
    exact hperm
  · have hencodings : (rs.map Row.selector).map canonicalJson =
        (rs.map Row.encoded).map Except.ok := by
      rw [List.map_map, List.map_map]
      refine List.map_congr_left fun r hr => ?_
      obtain ⟨p, -, hpr⟩ := exists_of_forall₂ hrs hr
      exact hpr.canonicalJson_selector
    rw [hencodings]
    exact hencoded.map fun _ _ heq => Except.ok.inj heq

end

/-! ## Mappings -/

/-- The mapping with other aliases. -/
def withAliases (fields : Fields) (aliases : Evidence) : Fields :=
  fields.map fun e => (e.1, if e.1 = "aliases" then aliases else e.2)

section

variable {fields : Fields} {aliases : Evidence}

lemma keys_withAliases : (withAliases fields aliases).map Prod.fst = fields.map Prod.fst := by
  rw [withAliases, List.map_map]
  rfl

lemma lookup_withAliases {k : String} (h : k ≠ "aliases") :
    (withAliases fields aliases).lookup k = fields.lookup k := by
  induction fields with
  | nil => rfl
  | cons e fields ih =>
      obtain ⟨l, v⟩ := e
      rw [withAliases, List.map_cons, ← withAliases]
      by_cases hk : k = l
      · subst hk
        rw [List.lookup_cons_self, List.lookup_cons_self, if_neg h]
      · rw [lookup_cons_of_ne hk, lookup_cons_of_ne hk, ih]

lemma lookup_aliases (h : "aliases" ∈ fields.map Prod.fst) :
    (withAliases fields aliases).lookup "aliases" = some aliases := by
  induction fields with
  | nil => cases h
  | cons e fields ih =>
      obtain ⟨l, v⟩ := e
      rw [withAliases, List.map_cons, ← withAliases]
      by_cases hk : "aliases" = l
      · subst hk
        rw [List.lookup_cons_self, if_pos rfl]
      · rw [lookup_cons_of_ne hk, ih ((List.mem_cons.mp h).resolve_left hk)]

lemma item_withAliases {k : String} (h : k ≠ "aliases") :
    (withAliases fields aliases).item k = fields.item k := by
  rw [Fields.item, Fields.item, lookup_withAliases h]

/-- No check of the other fields reads the aliases. -/
lemma checkSecrets_withAliases (used : List String) :
    checkSecrets (withAliases fields aliases) used = checkSecrets fields used := by
  simp only [checkSecrets, item_withAliases, ne_eq, String.reduceEq, not_false_eq_true]

lemma project_withAliases {keys : List String} (h : "aliases" ∉ keys) :
    project (withAliases fields aliases) keys = project fields keys := by
  unfold project
  induction keys with
  | nil => rfl
  | cons k keys ih =>
      rw [List.mem_cons, not_or] at h
      rw [List.mapM_cons, List.mapM_cons, item_withAliases (Ne.symm h.1), ih h.2]

variable {hmac : Bytes → String → Bytes}

lemma checkBundleId_withAliases (existing : List String) :
    checkBundleId hmac (withAliases fields aliases) existing =
      checkBundleId hmac fields existing := by
  simp only [checkBundleId, item_withAliases, ne_eq, String.reduceEq, not_false_eq_true]
  rw [project_withAliases (by decide)]

lemma derivedAliases_withAliases :
    derivedAliases hmac (withAliases fields aliases) = derivedAliases hmac fields := by
  simp only [derivedAliases, assignments, item_withAliases, ne_eq, String.reduceEq,
    not_false_eq_true]
  rw [project_withAliases (by decide)]

/-- An accepted mapping passes its checks, and its aliases are derived. -/
lemma checks_of_verify {used existing : List String}
    (h : verifyMappingAssignment hmac (.dict (withAliases fields aliases)) used existing =
      .ok ()) :
    IsValid .mapping (withAliases fields aliases) ∧ checkSecrets fields used = .ok () ∧
      checkBundleId hmac fields existing = .ok () ∧
        ∃ derived, derivedAliases hmac fields = .ok derived := by
  unfold verifyMappingAssignment at h
  obtain ⟨fields', hvalid, h⟩ := Except.bind_eq_ok.mp h
  obtain ⟨heq, hfields⟩ := validate_eq_ok.mp hvalid
  obtain rfl := Tree.dict.inj heq
  obtain ⟨_, hsecrets, h⟩ := Except.bind_eq_ok.mp h
  obtain ⟨_, hbundle, h⟩ := Except.bind_eq_ok.mp h
  obtain ⟨derived, hderived, -⟩ := Except.bind_eq_ok.mp h
  rw [checkSecrets_withAliases] at hsecrets
  rw [checkBundleId_withAliases] at hbundle
  rw [derivedAliases_withAliases] at hderived
  exact ⟨hfields, hsecrets, hbundle, derived, hderived⟩

/-- A mapping is accepted if its checks pass and Python finds its aliases equal to the derived. -/
lemma verifyMappingAssignment_eq_ok {used existing : List String} {derived : Fields}
    (hmem : "aliases" ∈ fields.map Prod.fst) (hsecrets : checkSecrets fields used = .ok ())
    (hbundle : checkBundleId hmac fields existing = .ok ())
    (hderived : derivedAliases hmac fields = .ok derived) :
    verifyMappingAssignment hmac (.dict (withAliases fields aliases)) used existing = .ok () ↔
      IsValid .mapping (withAliases fields aliases) ∧
        Evidence.eq (.dict derived) aliases = true := by
  unfold verifyMappingAssignment
  constructor
  · intro h
    obtain ⟨fields', hvalid, h⟩ := Except.bind_eq_ok.mp h
    obtain ⟨heq, hfields⟩ := validate_eq_ok.mp hvalid
    obtain rfl := Tree.dict.inj heq
    obtain ⟨_, -, h⟩ := Except.bind_eq_ok.mp h
    obtain ⟨_, -, h⟩ := Except.bind_eq_ok.mp h
    obtain ⟨derived', hderived', h⟩ := Except.bind_eq_ok.mp h
    rw [derivedAliases_withAliases, hderived] at hderived'
    obtain rfl := Except.ok.inj hderived'
    obtain ⟨aliases', haliases, h⟩ := Except.bind_eq_ok.mp h
    rw [Fields.item_eq_ok, lookup_aliases hmem] at haliases
    obtain rfl := Option.some.inj haliases
    exact ⟨hfields, ensure_eq_ok.mp h⟩
  · rintro ⟨hvalid, heq⟩
    refine Except.bind_eq_ok.mpr ⟨_, validate_eq_ok.mpr ⟨rfl, hvalid⟩, Except.bind_eq_ok.mpr ⟨(), ?_,
      Except.bind_eq_ok.mpr ⟨(), ?_, Except.bind_eq_ok.mpr ⟨derived, ?_,
        Except.bind_eq_ok.mpr ⟨aliases, ?_, ensure_eq_ok.mpr heq⟩⟩⟩⟩⟩
    · rw [checkSecrets_withAliases]
      exact hsecrets
    · rw [checkBundleId_withAliases]
      exact hbundle
    · rw [derivedAliases_withAliases]
      exact hderived
    · rw [Fields.item_eq_ok]
      exact lookup_aliases hmem

/-! ### Validity -/

/-- The values have one encoding. -/
def SameEncoding (v w : Evidence) : Prop :=
  ∃ text, canonicalJson v = .ok text ∧ canonicalJson w = .ok text

lemma SameEncoding.symm {v w : Evidence} (h : SameEncoding v w) : SameEncoding w v := by
  obtain ⟨text, hv, hw⟩ := h
  exact ⟨text, hw, hv⟩

lemma SameEncoding.trans {u v w : Evidence} (h : SameEncoding u v) (h' : SameEncoding v w) :
    SameEncoding u w := by
  obtain ⟨text, hu, hv⟩ := h
  obtain ⟨text', hv', hw⟩ := h'
  obtain rfl := Except.ok.inj (hv.symm.trans hv')
  exact ⟨text, hu, hw⟩

/-- The sides are those of the slots, and so are the encodings. -/
structure Covers (sides : Fields) (slots : List Evidence) : Prop where
  keys : sides.hasKeys ((List.range slots.length).map sideName) = true
  sources : ∀ e ∈ sides, ∃ v ∈ slots, SameEncoding e.2 v
  targets : ∀ v ∈ slots, ∃ e ∈ sides, SameEncoding v e.2

lemma validateAliases_eq_ok {slots : List Evidence} {bindings : Evidence} :
    validateAliases slots aliases bindings = .ok () ↔
      ∃ sides identities : Fields, aliases = .dict sides ∧ Covers sides slots ∧ bindings = .dict identities ∧
        identities.hasKeys ((List.range slots.length).map sideName) = true ∧
          allNames identities = true := by
  have hkeys : ∀ {sides identities : Fields},
      sides.hasKeys ((List.range slots.length).map sideName) = true →
        (identities.hasKeys (sides.map Prod.fst) = true ↔
          identities.hasKeys ((List.range slots.length).map sideName) = true) := by
    intro sides identities h
    rw [hasKeys_iff, hasKeys_iff]
    exact forall_congr' fun k => by rw [hasKeys_iff.mp h k]
  simp only [validateAliases, Except.bind_eq_ok, asDict_eq_ok, ensure_eq_ok, Except.mapM_eq_ok,
    Bool.and_eq_true, List.all_eq_true, decide_eq_true_eq]
  constructor
  · rintro ⟨sides, rfl, -, hsides, sources, hsources, targets, htargets, -, ⟨hin, hout⟩,
      identities, rfl, hidentities, hnames⟩
    refine ⟨sides, identities, rfl, ⟨hsides, fun e he => ?_, fun v hv => ?_⟩, rfl,
      (hkeys hsides).mp hidentities, hnames⟩
    · obtain ⟨text, htext, hjson⟩ := exists_of_forall₂ hsources.flip he
      obtain ⟨v, hv, hjson'⟩ := exists_of_forall₂ htargets (hin text htext)
      exact ⟨v, hv, text, hjson, hjson'⟩
    · obtain ⟨text, htext, hjson⟩ := exists_of_forall₂ htargets.flip hv
      obtain ⟨e, he, hjson'⟩ := exists_of_forall₂ hsources (hout text htext)
      exact ⟨e, he, text, hjson, hjson'⟩
  · rintro ⟨sides, identities, rfl, ⟨hsides, hin, hout⟩, rfl, hidentities, hnames⟩
    obtain ⟨sources, hsources⟩ := exists_forall₂ fun e he => by
      obtain ⟨v, -, text, hjson, -⟩ := hin e he
      exact ⟨text, hjson⟩
    obtain ⟨targets, htargets⟩ := exists_forall₂ fun v hv => by
      obtain ⟨e, -, text, hjson, -⟩ := hout v hv
      exact ⟨text, hjson⟩
    refine ⟨sides, rfl, (), hsides, sources, hsources, targets, htargets, (), ⟨?_, ?_⟩,
      identities, rfl, (hkeys hsides).mpr hidentities, hnames⟩
    · intro text htext
      obtain ⟨e, he, hjson⟩ := exists_of_forall₂ hsources htext
      obtain ⟨v, hv, text', hjson', hslot⟩ := hin e he
      obtain ⟨target, htarget, hjson''⟩ := exists_of_forall₂ htargets.flip hv
      rw [Except.ok.inj (hjson.symm.trans hjson'), Except.ok.inj (hslot.symm.trans hjson'')]
      exact htarget
    · intro text htext
      obtain ⟨v, hv, hjson⟩ := exists_of_forall₂ htargets htext
      obtain ⟨e, he, text', hjson', hside⟩ := hout v hv
      obtain ⟨source, hsource, hjson''⟩ := exists_of_forall₂ hsources.flip he
      rw [Except.ok.inj (hjson.symm.trans hjson'), Except.ok.inj (hside.symm.trans hjson'')]
      exact hsource

lemma validateField_aliases (v : Evidence) : validateField "aliases" v = .ok () := rfl

lemma validateField_selector (v : Evidence) :
    validateField "source_slot_selector" v = selector v := rfl

lemma mem_withAliases {e : String × Evidence} : e ∈ withAliases fields aliases ↔
    ∃ e' ∈ fields, (e'.1, if e'.1 = "aliases" then aliases else e'.2) = e := List.mem_map

lemma keysOk_withAliases (h : (Tree.dict fields).keysOk distinct = true)
    (haliases : aliases.keysOk distinct = true) :
    (Tree.dict (withAliases fields aliases)).keysOk distinct = true := by
  obtain ⟨hnodup, hall⟩ := Bool.and_eq_true_iff.mp h
  refine Bool.and_eq_true_iff.mpr ⟨?_, Tree.keysOkEntries_iff.mpr fun e he => ?_⟩
  · rw [keys_withAliases]
    exact hnodup
  · obtain ⟨e', he', rfl⟩ := mem_withAliases.mp he
    dsimp only
    split
    · exact haliases
    · exact Tree.keysOkEntries_iff.mp hall e' he'

lemma list_of_selectors {v : Evidence} {items : List Evidence} (h : selectors v = .ok items) :
    v = .list items := by
  unfold selectors at h
  obtain ⟨items', hlist, h⟩ := Except.bind_eq_ok.mp h
  iterate 4 obtain ⟨_, -, h⟩ := Except.bind_eq_ok.mp h
  rw [Except.pure_eq_ok.mp h] at hlist
  exact asList_eq_ok.mp hlist

lemma validateMapping_eq_ok {f : Fields} : validateMapping f = .ok () ↔
    ∃ slots repeats aliases bindings,
      (f.lookup "exact_source_slot_selectors" = some (.list slots) ∧
        selectors (.list slots) = .ok slots) ∧
      (f.lookup "complete_required_repeat_selectors" = some (.list repeats) ∧
        selectors (.list repeats) = .ok repeats) ∧
      f.lookup "aliases" = some aliases ∧
      f.lookup "source_identity_bindings" = some bindings ∧
      validateAliases slots aliases bindings = .ok () := by
  simp only [validateMapping, Except.bind_eq_ok, Fields.item_eq_ok]
  constructor
  · rintro ⟨v, hv, slots, hslots, w, hw, repeats, hrepeats, aliases, haliases, bindings,
      hbindings, h⟩
    obtain rfl := list_of_selectors hslots
    obtain rfl := list_of_selectors hrepeats
    exact ⟨slots, repeats, aliases, bindings, ⟨hv, hslots⟩, ⟨hw, hrepeats⟩, haliases, hbindings, h⟩
  · rintro ⟨slots, repeats, aliases, bindings, ⟨hv, hslots⟩, ⟨hw, hrepeats⟩, haliases, hbindings, h⟩
    exact ⟨_, hv, slots, hslots, _, hw, repeats, hrepeats, aliases, haliases, bindings, hbindings,
      h⟩

/-- Encoded aliases keep a mapping encoded. -/
lemma encoded_withAliases {before : Evidence} {sides : Fields} {slots : List Evidence}
    (hkeys : (Tree.dict fields).keysOk distinct = true)
    (hbefore : before.keysOk distinct = true) (hsides : (Tree.dict sides).keysOk distinct = true)
    (hcovers : Covers sides slots)
    (h : ∃ text, canonicalJson (.dict (withAliases fields before)) = .ok text) :
    ∃ text, canonicalJson (.dict (withAliases fields (.dict sides))) = .ok text := by
  refine (exists_canonicalJson (keysOk_withAliases hkeys hsides)).mpr fun n hn => ?_
  obtain ⟨e, he, hne⟩ := Tree.mem_numbersEntries.mp hn
  obtain ⟨e', he', rfl⟩ := mem_withAliases.mp he
  by_cases halias : e'.1 = "aliases"
  · dsimp only at hne
    rw [if_pos halias] at hne
    obtain ⟨side, hside, hnside⟩ := Tree.mem_numbersEntries.mp hne
    obtain ⟨v, -, text, hjson, -⟩ := hcovers.sources side hside
    have hsidekeys := Tree.keysOkEntries_iff.mp (Bool.and_eq_true_iff.mp hsides).2 side hside
    exact (exists_canonicalJson hsidekeys).mp ⟨text, hjson⟩ n hnside
  · dsimp only at hne
    rw [if_neg halias] at hne
    refine (exists_canonicalJson (keysOk_withAliases hkeys hbefore)).mp h n
      (Tree.mem_numbersEntries.mpr ⟨e', mem_withAliases.mpr ⟨e', he', ?_⟩, hne⟩)
    rw [if_neg halias]

/-- A mapping whose other fields are valid is valid if its aliases cover its slots. -/
lemma isValid_withAliases {slots : List Evidence} {before : Evidence}
    (hkeys : (Tree.dict fields).keysOk distinct = true)
    (hbefore : before.keysOk distinct = true) (haliases : aliases.keysOk distinct = true)
    (hslots : fields.lookup "exact_source_slot_selectors" = some (.list slots))
    (hvalid : IsValid .mapping (withAliases fields before)) :
    IsValid .mapping (withAliases fields aliases) ↔
      ∃ sides, aliases = .dict sides ∧ Covers sides slots := by
  have hmem : "aliases" ∈ fields.map Prod.fst := by
    rw [← @keys_withAliases fields before]
    exact (hasKeys_iff.mp hvalid.keys _).mpr (by decide)
  have hslot : ∀ {a : Evidence} {slots' : List Evidence},
      (withAliases fields a).lookup "exact_source_slot_selectors" = some (.list slots') →
        slots = slots' := by
    intro a slots' h
    rw [lookup_withAliases (by decide), hslots] at h
    exact Tree.list.inj (Option.some.inj h)
  obtain ⟨slots₀, repeats, aliases₀, bindings, ⟨hv, hselectors⟩, hrepeats, -, hbindings, hchecks⟩ :=
    validateMapping_eq_ok.mp (hvalid.mapping rfl)
  obtain rfl := hslot hv
  constructor
  · intro h
    obtain ⟨slots', _, aliases', _, ⟨hv', -⟩, -, haliases', -, h⟩ :=
      validateMapping_eq_ok.mp (h.mapping rfl)
    obtain rfl := hslot hv'
    rw [lookup_aliases hmem] at haliases'
    obtain rfl := Option.some.inj haliases'
    obtain ⟨sides, -, rfl, hcovers, -⟩ := validateAliases_eq_ok.mp h
    exact ⟨sides, rfl, hcovers⟩
  · rintro ⟨sides, rfl, hcovers⟩
    obtain ⟨-, identities, -, -, rfl, hidentities, hnames⟩ := validateAliases_eq_ok.mp hchecks
    have hlookup : ∀ {k : String}, k ≠ "aliases" →
        (withAliases fields (.dict sides)).lookup k = (withAliases fields before).lookup k :=
      fun hk => by rw [lookup_withAliases hk, lookup_withAliases hk]
    refine ⟨?_, encoded_withAliases hkeys hbefore haliases hcovers hvalid.encoded, ?_, ?_, ?_, ?_,
      fun _ => ?_⟩
    · have hsame := hvalid.keys
      rw [Fields.hasKeys, keys_withAliases] at hsame ⊢
      exact hsame
    · rw [hlookup (by decide)]
      exact hvalid.version
    · intro field hfield
      rw [hlookup (by rintro rfl; exact absurd hfield (by decide))]
      exact hvalid.identifiers field hfield
    · rw [hlookup (by decide)]
      exact hvalid.algorithm
    · intro e he
      obtain ⟨e', he', rfl⟩ := mem_withAliases.mp he
      by_cases halias : e'.1 = "aliases"
      · rw [halias]
        exact validateField_aliases _
      · have hsame := hvalid.each _ (mem_withAliases.mpr ⟨e', he', rfl⟩)
        dsimp only at hsame ⊢
        rw [if_neg halias] at hsame ⊢
        exact hsame
    · refine validateMapping_eq_ok.mpr ⟨slots, repeats, .dict sides, .dict identities,
        ⟨?_, hselectors⟩, ⟨?_, hrepeats.2⟩, lookup_aliases hmem, ?_,
        validateAliases_eq_ok.mpr ⟨sides, identities, rfl, hcovers, rfl, hidentities, hnames⟩⟩
      · rw [hlookup (by decide)]
        exact hv
      · rw [hlookup (by decide)]
        exact hrepeats.1
      · rw [hlookup (by decide)]
        exact hbindings

/-! ### Derived aliases -/

lemma keys_project {keys : List String} {base : Fields} (h : project fields keys = .ok base) :
    base.map Prod.fst = keys ∧ ∀ e ∈ base, fields.lookup e.1 = some e.2 := by
  unfold project at h
  rw [Except.mapM_eq_ok] at h
  induction h with
  | nil => exact ⟨rfl, fun e he => nomatch he⟩
  | @cons k e keys base hke _ ih =>
      obtain ⟨rfl, hlookup⟩ : e.1 = k ∧ fields.lookup e.1 = some e.2 := by
        cases hitem : fields.item k with
        | error raised => simp [hitem, Except.map] at hke
        | ok v =>
            rw [hitem] at hke
            obtain rfl := Except.ok.inj hke
            exact ⟨rfl, Fields.item_eq_ok.mp hitem⟩
      refine ⟨congrArg _ ih.1, fun e' he' => ?_⟩
      rcases List.mem_cons.mp he' with rfl | he'
      · exact hlookup
      · exact ih.2 e' he'

lemma exists_project {keys : List String} (h : ∀ k ∈ keys, k ∈ fields.map Prod.fst) :
    ∃ base, project fields keys = .ok base := by
  have hitems : ∀ k ∈ keys, ∃ e, (fields.item k).map (k, ·) = .ok e := by
    intro k hk
    obtain ⟨v, hv⟩ := Option.isSome_iff_exists.mp (lookup_isSome.mpr (h k hk))
    exact ⟨(k, v), by rw [Fields.item_eq_ok.mpr hv]; rfl⟩
  obtain ⟨base, hbase⟩ := exists_forall₂ hitems
  exact ⟨base, Except.mapM_eq_ok.mpr hbase⟩

/-- The assignment preimage of a slot. -/
def slotPreimage (base : Fields) (version source : Evidence) : Fields :=
  base ++ [("algorithm_version", version), ("source_slot_selector", source)]

lemma assignments_eq_ok {preimages : List Evidence} : assignments fields = .ok preimages ↔
    ∃ base version slots, project fields bundleIdFields = .ok base ∧
      fields.lookup "algorithm_version" = some version ∧
      fields.lookup "exact_source_slot_selectors" = some (.list slots) ∧
      preimages = slots.map fun source => .dict (slotPreimage base version source) := by
  simp only [assignments, Except.bind_eq_ok, Fields.item_eq_ok, asList_eq_ok, Except.pure_eq_ok]
  constructor
  · rintro ⟨base, hbase, version, hversion, _, hslots, slots, rfl, rfl⟩
    exact ⟨base, version, slots, hbase, hversion, hslots, rfl⟩
  · rintro ⟨base, version, slots, hbase, hversion, hslots, rfl⟩
    exact ⟨base, hbase, version, hversion, _, hslots, slots, rfl, rfl⟩

section

variable {base : Fields} {version : Evidence}

lemma keys_slotPreimage (hbase : base.map Prod.fst = bundleIdFields) (source : Evidence) :
    (slotPreimage base version source).map Prod.fst =
      bundleIdFields ++ ["algorithm_version", "source_slot_selector"] := by
  rw [slotPreimage, List.map_append, hbase]
  rfl

lemma lookup_slotPreimage (hbase : base.map Prod.fst = bundleIdFields) (source : Evidence) :
    (slotPreimage base version source).lookup "source_slot_selector" = some source := by
  refine lookup_of_mem ?_ (List.mem_append_right _ (List.mem_cons_of_mem _ List.mem_cons_self))
  rw [keys_slotPreimage hbase]
  decide

end

/-- The derived aliases name the slots. -/
lemma isAssignment_of_derivedAliases {slots : List Evidence} {derived : Fields}
    (hslots : fields.lookup "exact_source_slot_selectors" = some (.list slots))
    (h : derivedAliases hmac fields = .ok derived) : IsAssignment derived slots := by
  simp only [derivedAliases, Except.bind_eq_ok] at h
  obtain ⟨_, -, preimages, hpreimages, h⟩ := h
  obtain ⟨base, version, slots', hbase, -, hslots', rfl⟩ := assignments_eq_ok.mp hpreimages
  rw [hslots] at hslots'
  obtain rfl := Tree.list.inj (Option.some.inj hslots')
  obtain ⟨sources, hsources, hassignment⟩ := isAssignment_of_orderedAliases h
  have hsame : List.Forall₂ Eq slots sources := by
    refine (List.forall₂_map_left_iff.mp hsources).imp fun source source' hsource => ?_
    obtain ⟨f, heq, hlookup⟩ := hsource
    obtain rfl := Tree.dict.inj heq
    rw [lookup_slotPreimage (keys_project hbase).1] at hlookup
    exact Option.some.inj hlookup
  rw [List.forall₂_eq_eq_eq] at hsame
  rw [hsame]
  exact hassignment

/-- No two slots of the mapping have one keyed digest. -/
def NoTies (hmac : Bytes → String → Bytes) (fields : Fields) : Prop :=
  ∀ seed key preimages, fields.lookup "bundle_seed" = some seed →
    (Seed.text seed).key = .ok key → assignments fields = .ok preimages →
      (preimages.map (keyed hmac key .aliasAssignment)).Nodup

/-- Aliases are derived without ties only. -/
lemma noTies_of_derivedAliases {derived : Fields} (h : derivedAliases hmac fields = .ok derived) :
    NoTies hmac fields := by
  intro seed key preimages hseed hkey hpreimages
  simp only [derivedAliases, Except.bind_eq_ok, Fields.item_eq_ok] at h
  obtain ⟨seed', hseed', preimages', hpreimages', h⟩ := h
  obtain rfl := Option.some.inj (hseed.symm.trans hseed')
  obtain rfl := Except.ok.inj (hpreimages.symm.trans hpreimages')
  obtain ⟨-, key', current, rs, hkey', hrs, -, hdigest, -⟩ := orderedAliases_eq_ok.mp h
  obtain rfl := Except.ok.inj (hkey.symm.trans hkey')
  rw [map_keyed hrs]
  exact hdigest.map fun _ _ heq => Except.ok.inj heq

lemma seed_of_digest {v : Evidence} (h : digestString v = .ok ()) :
    ∃ key, (Seed.text v).key = .ok key := by
  cases v with
  | str s => exact ⟨fromHex s.toList, Except.bind_eq_ok.mpr ⟨(), h, rfl⟩⟩
  | _ => cases h

lemma selector_of_mem {slots : List Evidence} {source : Evidence}
    (h : selectors (.list slots) = .ok slots) (hmem : source ∈ slots) :
    selector source = .ok () := by
  unfold selectors at h
  obtain ⟨items, hlist, h⟩ := Except.bind_eq_ok.mp h
  obtain rfl := Tree.list.inj (asList_eq_ok.mp hlist)
  obtain ⟨_, -, h⟩ := Except.bind_eq_ok.mp h
  obtain ⟨_, hall, -⟩ := Except.bind_eq_ok.mp h
  exact Except.forM_eq_ok.mp hall source hmem

lemma ne_nil_of_selectors {slots : List Evidence} (h : selectors (.list slots) = .ok slots) :
    slots ≠ [] := by
  unfold selectors at h
  obtain ⟨items, hlist, h⟩ := Except.bind_eq_ok.mp h
  obtain rfl := Tree.list.inj (asList_eq_ok.mp hlist)
  obtain ⟨_, hne, -⟩ := Except.bind_eq_ok.mp h
  exact of_decide_eq_true (ensure_eq_ok.mp hne)

lemma exists_canonicalJson_of_selector {source : Evidence} (h : selector source = .ok ()) :
    ∃ text, canonicalJson source = .ok text := by
  unfold selector at h
  obtain ⟨_, -, h⟩ := Except.bind_eq_ok.mp h
  obtain ⟨text, htext, -⟩ := Except.bind_eq_ok.mp h
  exact ⟨text, htext⟩

/-- The preimage of each slot of a valid mapping is valid. -/
lemma isValid_slotPreimage {before version source : Evidence} {base : Fields}
    (hkeys : (Tree.dict fields).keysOk distinct = true)
    (hbefore : before.keysOk distinct = true)
    (hvalid : IsValid .mapping (withAliases fields before))
    (hbase : project fields bundleIdFields = .ok base)
    (hversion : fields.lookup "algorithm_version" = some version)
    (hselector : selector source = .ok ()) (hsource : source.keysOk distinct = true) :
    (Tree.dict (slotPreimage base version source)).keysOk distinct = true ∧
      IsValid .aliasAssignment (slotPreimage base version source) := by
  obtain ⟨hbasekeys, hbaselookup⟩ := keys_project hbase
  have hpreimage : (slotPreimage base version source).map Prod.fst =
      bundleIdFields ++ ["algorithm_version", "source_slot_selector"] :=
    keys_slotPreimage hbasekeys source
  -- What the preimage names, but the selector, is what the mapping names.
  have hentry : ∀ e ∈ slotPreimage base version source, e = ("source_slot_selector", source) ∨
      e.1 ≠ "aliases" ∧ fields.lookup e.1 = some e.2 := by
    intro e he
    rcases List.mem_append.mp he with hmem | hmem
    · refine Or.inr ⟨?_, hbaselookup e hmem⟩
      rintro halias
      have hname : e.1 ∈ base.map Prod.fst := List.mem_map_of_mem hmem
      rw [hbasekeys, halias] at hname
      exact absurd hname (by decide)
    · rcases List.mem_pair.mp hmem with rfl | rfl
      · have hne : "algorithm_version" ≠ "aliases" := by decide
        exact Or.inr ⟨hne, hversion⟩
      · exact Or.inl rfl
  have hlookup : ∀ k ∈ bundleIdFields ++ ["algorithm_version"],
      (slotPreimage base version source).lookup k = (withAliases fields before).lookup k := by
    intro k hk
    have hmem : k ∈ (slotPreimage base version source).map Prod.fst := by
      rw [hpreimage]
      exact List.mem_append.mpr ((List.mem_append.mp hk).imp_right fun h =>
        List.mem_cons.mpr (Or.inl (List.mem_singleton.mp h)))
    obtain ⟨v, hv⟩ := Option.isSome_iff_exists.mp (lookup_isSome.mpr hmem)
    rcases hentry _ (mem_of_lookup hv) with heq | ⟨hne, hfield⟩
    · rw [(Prod.mk.inj heq).1] at hk
      exact absurd hk (by decide)
    · rw [hv, lookup_withAliases hne, hfield]
  have hkeysOk : (Tree.dict (slotPreimage base version source)).keysOk distinct = true := by
    refine Bool.and_eq_true_iff.mpr ⟨?_, Tree.keysOkEntries_iff.mpr fun e he => ?_⟩
    · rw [hpreimage]
      decide
    · rcases hentry e he with rfl | ⟨-, hfield⟩
      · exact hsource
      · exact keysOk_of_lookup hkeys hfield
  refine ⟨hkeysOk, hasKeys_iff.mpr fun k => ?_, ?_, ?_, fun field hfield => ?_, ?_, fun e he => ?_,
    fun h => nomatch h⟩
  · have hperm : (bundleIdFields ++ ["algorithm_version", "source_slot_selector"]).Perm
        Operation.aliasAssignment.fields := by decide
    rw [hpreimage, hperm.mem_iff]
  · refine (exists_canonicalJson hkeysOk).mpr fun n hn => ?_
    obtain ⟨e, he, hne⟩ := Tree.mem_numbersEntries.mp hn
    rcases hentry e he with rfl | ⟨halias, hfield⟩
    · exact (exists_canonicalJson hsource).mp (exists_canonicalJson_of_selector hselector) n hne
    · rw [← @lookup_withAliases fields before _ halias] at hfield
      exact (exists_canonicalJson (keysOk_withAliases hkeys hbefore)).mp hvalid.encoded n
        (Tree.mem_numbersEntries.mpr ⟨e, mem_of_lookup hfield, hne⟩)
  · rw [hlookup _ (by decide)]
    exact hvalid.version
  · rw [hlookup field (by revert field; decide)]
    exact hvalid.identifiers field hfield
  · rw [hlookup _ (by decide)]
    exact hvalid.algorithm
  · rcases hentry e he with rfl | ⟨halias, hfield⟩
    · rw [validateField_selector, hselector]
    · rw [← @lookup_withAliases fields before _ halias] at hfield
      exact hvalid.each e (mem_of_lookup hfield)

/-- A valid mapping without ties has its aliases derived. -/
lemma exists_derivedAliases (hlength : ∀ k t, (hmac k t).length = 32) {before : Evidence}
    (hkeys : (Tree.dict fields).keysOk distinct = true)
    (hbefore : before.keysOk distinct = true)
    (hvalid : IsValid .mapping (withAliases fields before)) (hties : NoTies hmac fields) :
    ∃ derived, derivedAliases hmac fields = .ok derived := by
  have hmem : ∀ k ∈ Operation.mapping.fields, k ∈ fields.map Prod.fst := by
    intro k hk
    rw [← @keys_withAliases fields before]
    exact (hasKeys_iff.mp hvalid.keys k).mpr hk
  obtain ⟨slots, -, -, -, ⟨hslots, hselectors⟩, -⟩ :=
    validateMapping_eq_ok.mp (hvalid.mapping rfl)
  rw [lookup_withAliases (by decide)] at hslots
  obtain ⟨base, hbase⟩ := @exists_project fields bundleIdFields fun k hk =>
    hmem k (by revert k; decide)
  obtain ⟨version, hversion⟩ := Option.isSome_iff_exists.mp
    (lookup_isSome.mpr (hmem "algorithm_version" (by decide)))
  obtain ⟨seed, hseed⟩ := Option.isSome_iff_exists.mp
    (lookup_isSome.mpr (hmem "bundle_seed" (by decide)))
  have hdigest : digestString seed = .ok () := by
    have hlookup := hseed
    rw [← @lookup_withAliases fields before _ (by decide)] at hlookup
    have hfield : isDigestField "bundle_seed" = true := by decide
    exact digestString_of_validateField hfield (hvalid.each _ (mem_of_lookup hlookup))
  obtain ⟨key, hkey⟩ := seed_of_digest hdigest
  have hassignments := assignments_eq_ok.mpr ⟨base, version, slots, hbase, hversion, hslots, rfl⟩
  have hslot : ∀ source ∈ slots,
      (Tree.dict (slotPreimage base version source)).keysOk distinct = true ∧
        IsValid .aliasAssignment (slotPreimage base version source) := by
    intro source hsource
    have hsourcekeys := Tree.keysOkItems_iff.mp (keysOk_of_lookup hkeys hslots) source hsource
    exact isValid_slotPreimage hkeys hbefore hvalid hbase hversion
      (selector_of_mem hselectors hsource) hsourcekeys
  have hmetadata : ∀ source, bundleMetadata (slotPreimage base version source) =
      .dict (base ++ [("algorithm_version", version)]) := by
    intro source
    have hkeep : base.filter (fun e => e.1 ≠ "source_slot_selector") = base := by
      refine List.filter_eq_self.mpr fun e he => ?_
      have hname : e.1 ∈ base.map Prod.fst := List.mem_map_of_mem he
      rw [(keys_project hbase).1] at hname
      refine decide_eq_true ?_
      rintro hselector
      rw [hselector] at hname
      exact absurd hname (by decide)
    rw [bundleMetadata, slotPreimage, List.filter_append, hkeep]
    rfl
  obtain ⟨source₀, slots', rfl⟩ := List.exists_cons_of_ne_nil (ne_nil_of_selectors hselectors)
  obtain ⟨current, hcurrent⟩ : ∃ current,
      canonicalJson (.dict (base ++ [("algorithm_version", version)])) = .ok current := by
    obtain ⟨hkeys₀, hvalid₀⟩ := hslot source₀ List.mem_cons_self
    rw [← hmetadata source₀]
    refine (exists_canonicalJson (keysOk_bundleMetadata hkeys₀)).mpr fun n hn => ?_
    obtain ⟨e, he, hne⟩ := Tree.mem_numbersEntries.mp hn
    exact (exists_canonicalJson hkeys₀).mp hvalid₀.encoded n
      (Tree.mem_numbersEntries.mpr ⟨e, List.mem_of_mem_filter he, hne⟩)
  have hpreimages : ∀ p ∈ (source₀ :: slots').map fun source =>
      Tree.dict (slotPreimage base version source), p.keysOk distinct = true ∧
        ∃ f, validate .aliasAssignment p = .ok f ∧ canonicalJson (bundleMetadata f) = .ok current := by
    intro p hp
    obtain ⟨source, hsource, rfl⟩ := List.mem_map.mp hp
    obtain ⟨hk, hv⟩ := hslot source hsource
    refine ⟨hk, _, validate_eq_ok.mpr ⟨rfl, hv⟩, ?_⟩
    rw [hmetadata]
    exact hcurrent
  obtain ⟨aliases', haliases⟩ := exists_orderedAliases hlength hkey (List.cons_ne_nil _ _)
    (fun p hp => (hpreimages p hp).1) (fun p hp => (hpreimages p hp).2)
    (hties seed key _ hseed hkey hassignments)
  exact ⟨aliases', Except.bind_eq_ok.mpr ⟨seed, Fields.item_eq_ok.mpr hseed,
    Except.bind_eq_ok.mpr ⟨_, hassignments, haliases⟩⟩⟩

/-! ## The law -/

/-- The aliases are the derived ones, up to the encodings of their selectors. -/
def SameAliases (derived : Fields) (aliases : Evidence) : Prop :=
  ∃ sides : Fields, aliases = .dict sides ∧
    ∀ k, Option.Rel SameEncoding (derived.lookup k) (sides.lookup k)

lemma SameEncoding.sort_eq {v w : Evidence} (hv : v.keysOk distinct = true)
    (hw : w.keysOk distinct = true) (h : SameEncoding v w) : v.sort = w.sort := by
  obtain ⟨text, htext, htext'⟩ := h
  exact sort_eq_of_canonicalJson hv hw htext htext'

variable {derived sides : Fields} {slots : List Evidence}

/-- Aliases with the encodings of the derived ones cover the slots. -/
lemma covers_of_sameAliases (hassignment : IsAssignment derived slots)
    (hnodup : (sides.map Prod.fst).Nodup)
    (h : ∀ k, Option.Rel SameEncoding (derived.lookup k) (sides.lookup k)) :
    Covers sides slots := by
  have hderived : (derived.map Prod.fst).Nodup := by
    rw [hassignment.sides]
    exact nodup_sideNames _
  -- Every side has its derived counterpart, and the other way round.
  have hside : ∀ e ∈ sides, ∃ v, (e.1, v) ∈ derived ∧ SameEncoding v e.2 := by
    intro e he
    have hk := h e.1
    rw [lookup_of_mem hnodup (show (e.1, e.2) ∈ sides from he)] at hk
    obtain ⟨v, hv, hsame⟩ := rel_some_right hk
    exact ⟨v, mem_of_lookup hv, hsame⟩
  have hback : ∀ e ∈ derived, ∃ w, (e.1, w) ∈ sides ∧ SameEncoding e.2 w := by
    intro e he
    have hk := h e.1
    rw [lookup_of_mem hderived (show (e.1, e.2) ∈ derived from he)] at hk
    obtain ⟨w, hw, hsame⟩ := rel_some_left hk
    exact ⟨w, mem_of_lookup hw, hsame⟩
  refine ⟨hasKeys_iff.mpr fun k => ?_, fun e he => ?_, fun v hv => ?_⟩
  · rw [← hassignment.sides]
    constructor
    · intro hk
      obtain ⟨e, he, rfl⟩ := List.mem_map.mp hk
      obtain ⟨v, hv, -⟩ := hside e he
      exact List.mem_map.mpr ⟨_, hv, rfl⟩
    · intro hk
      obtain ⟨e, he, rfl⟩ := List.mem_map.mp hk
      obtain ⟨w, hw, -⟩ := hback e he
      exact List.mem_map.mpr ⟨_, hw, rfl⟩
  · obtain ⟨v, hv, hsame⟩ := hside e he
    exact ⟨v, hassignment.values.mem_iff.mp (List.mem_map.mpr ⟨_, hv, rfl⟩), hsame.symm⟩
  · obtain ⟨e, he, rfl⟩ := List.mem_map.mp (hassignment.values.mem_iff.mpr hv)
    obtain ⟨w, hw, hsame⟩ := hback e he
    exact ⟨_, hw, hsame⟩

/-- Python's `==` on the selectors says no more than their encodings. -/
def Separated (slots : List Evidence) : Prop :=
  ∀ v ∈ slots, ∀ w ∈ slots, Evidence.eq v w = true → SameEncoding v w

section

variable (hassignment : IsAssignment derived slots)
  (hslots : ∀ v ∈ slots, v.keysOk distinct = true ∧ ∃ text, canonicalJson v = .ok text)

/-- What a derived alias names is a slot. -/
lemma IsAssignment.mem_slots {k : String} {v : Evidence} (hassignment : IsAssignment derived slots)
    (h : derived.lookup k = some v) : v ∈ slots :=
  hassignment.values.mem_iff.mp (List.mem_map.mpr ⟨_, mem_of_lookup h, rfl⟩)

lemma IsAssignment.nodup (hassignment : IsAssignment derived slots) :
    (derived.map Prod.fst).Nodup := by
  rw [hassignment.sides]
  exact nodup_sideNames _

include hassignment hslots in
/-- Where Python's `==` decides, covering aliases it takes for the derived ones are these. -/
lemma sameAliases_of_eq (hseparated : Separated slots)
    (hsides : (Tree.dict sides).keysOk distinct = true) (hcovers : Covers sides slots)
    (h : Evidence.eq (.dict derived) (.dict sides) = true) : SameAliases derived (.dict sides) := by
  have hnodup := distinct_iff.mp (Bool.and_eq_true_iff.mp hsides).1
  refine ⟨sides, rfl, fun k => ?_⟩
  have hk := (eq_dict_iff hassignment.nodup hnodup).mp h k
  cases hv : derived.lookup k with
  | none =>
      cases hw : sides.lookup k with
      | none => exact .none
      | some w =>
          rw [hv, hw] at hk
          cases hk
  | some v =>
      rw [hv] at hk
      obtain ⟨w, hw, heq⟩ := rel_some_left hk
      rw [hw]
      obtain ⟨u, hu, hsame⟩ := hcovers.sources _ (mem_of_lookup hw)
      have hsort := hsame.sort_eq (keysOk_of_lookup hsides hw) (hslots u hu).1
      have heq' : Evidence.eq v u = true := by
        rw [Evidence.eq, ← hsort]
        exact heq
      exact .some ((hseparated v (hassignment.mem_slots hv) u hu heq').trans hsame.symm)

include hassignment hslots in
/-- Python takes the derived aliases for themselves. -/
lemma eq_of_sameAliases (hsides : (Tree.dict sides).keysOk distinct = true)
    (h : ∀ k, Option.Rel SameEncoding (derived.lookup k) (sides.lookup k)) :
    Evidence.eq (.dict derived) (.dict sides) = true := by
  have hnodup := distinct_iff.mp (Bool.and_eq_true_iff.mp hsides).1
  refine (eq_dict_iff hassignment.nodup hnodup).mpr fun k => ?_
  have hk := h k
  cases hv : derived.lookup k with
  | none =>
      rw [hv] at hk
      cases hw : sides.lookup k with
      | none => exact .none
      | some w =>
          rw [hw] at hk
          cases hk
  | some v =>
      rw [hv] at hk
      obtain ⟨w, hw, hsame⟩ := rel_some_left hk
      obtain ⟨hvkeys, text, htext⟩ := hslots v (hassignment.mem_slots hv)
      rw [hw]
      refine .some ?_
      rw [Evidence.eq, ← hsame.sort_eq hvkeys (keysOk_of_lookup hsides hw)]
      exact eq_self_of_canonicalJson hvkeys htext

end

/-! ### Confused selectors -/

/-- The selector, with `v` and `w` exchanged. -/
def exchange (v w u : Evidence) : Evidence :=
  if canonicalJson u = canonicalJson v then w
  else if canonicalJson u = canonicalJson w then v
  else u

/-- The aliases, with the selectors `v` and `w` exchanged. -/
def exchanged (derived : Fields) (v w : Evidence) : Fields :=
  derived.map fun e => (e.1, exchange v w e.2)

section

variable {v w : Evidence}

lemma keys_exchanged : (exchanged derived v w).map Prod.fst = derived.map Prod.fst := by
  rw [exchanged, List.map_map]
  rfl

lemma lookup_exchanged (k : String) :
    (exchanged derived v w).lookup k = (derived.lookup k).map (exchange v w) := by
  induction derived with
  | nil => rfl
  | cons e derived ih =>
      obtain ⟨l, u⟩ := e
      rw [exchanged, List.map_cons, ← exchanged]
      by_cases hk : k = l
      · subst hk
        rw [List.lookup_cons_self, List.lookup_cons_self]
        rfl
      · rw [lookup_cons_of_ne hk, lookup_cons_of_ne hk, ih]

lemma exchange_mem (hv : v ∈ slots) (hw : w ∈ slots) {u : Evidence} (hu : u ∈ slots) :
    exchange v w u ∈ slots := by
  unfold exchange
  split_ifs
  · exact hw
  · exact hv
  · exact hu

lemma sameEncoding_of_eq {u u' : Evidence} (h : canonicalJson u = canonicalJson u')
    (hjson : ∃ text, canonicalJson u' = .ok text) : SameEncoding u u' := by
  obtain ⟨text, htext⟩ := hjson
  exact ⟨text, h.trans htext, htext⟩

/-- Python does not see that equal selectors are exchanged. -/
lemma eq_exchange (hslots : ∀ v ∈ slots, v.keysOk distinct = true ∧
    ∃ text, canonicalJson v = .ok text) (hv : v ∈ slots) (hw : w ∈ slots)
    (heq : Evidence.eq v w = true) {u : Evidence} (hu : u ∈ slots) :
    Evidence.eq u (exchange v w u) = true := by
  obtain ⟨hvkeys, hvjson⟩ := hslots v hv
  obtain ⟨hwkeys, hwjson⟩ := hslots w hw
  obtain ⟨hukeys, text, hujson⟩ := hslots u hu
  unfold exchange
  split_ifs with huv huw
  · rw [Evidence.eq, (sameEncoding_of_eq huv hvjson).sort_eq hukeys hvkeys]
    exact heq
  · rw [Evidence.eq, (sameEncoding_of_eq huw hwjson).sort_eq hukeys hwkeys]
    exact (eq_comm_of_evidence w v).trans heq
  · exact eq_self_of_canonicalJson hukeys hujson

/-- Exchanged twice, a selector has its encoding back. -/
lemma exchange_exchange (u : Evidence) :
    canonicalJson (exchange v w (exchange v w u)) = canonicalJson u := by
  unfold exchange
  by_cases huv : canonicalJson u = canonicalJson v
  · rw [if_pos huv]
    by_cases hwv : canonicalJson w = canonicalJson v
    · rw [if_pos hwv, hwv, huv]
    · rw [if_neg hwv, if_pos rfl, huv]
  · rw [if_neg huv]
    by_cases huw : canonicalJson u = canonicalJson w
    · rw [if_pos huw, if_pos rfl, huw]
    · rw [if_neg huw, if_neg huv, if_neg huw]

/-- Exchanged aliases still cover the slots. -/
lemma covers_exchanged (hassignment : IsAssignment derived slots)
    (hslots : ∀ v ∈ slots, v.keysOk distinct = true ∧ ∃ text, canonicalJson v = .ok text)
    (hv : v ∈ slots) (hw : w ∈ slots) : Covers (exchanged derived v w) slots := by
  refine ⟨hasKeys_iff.mpr fun k => ?_, fun e he => ?_, fun u hu => ?_⟩
  · rw [keys_exchanged, hassignment.sides]
  · obtain ⟨e', he', rfl⟩ := List.mem_map.mp he
    have hmem := hassignment.values.mem_iff.mp (List.mem_map_of_mem he')
    have hexchange := exchange_mem hv hw hmem
    exact ⟨_, hexchange, sameEncoding_of_eq rfl (hslots _ hexchange).2⟩
  · -- The slot is where its exchanged selector was.
    obtain ⟨e, he, hvalue⟩ :=
      List.mem_map.mp (hassignment.values.mem_iff.mpr (exchange_mem hv hw hu))
    refine ⟨(e.1, exchange v w e.2), List.mem_map.mpr ⟨e, he, rfl⟩, ?_⟩
    rw [hvalue]
    obtain ⟨text, htext⟩ := (hslots u hu).2
    exact ⟨text, htext, (exchange_exchange u).trans htext⟩

/-- They are not the derived ones if the selectors have different encodings. -/
lemma not_sameAliases_exchanged (hassignment : IsAssignment derived slots) (hv : v ∈ slots)
    (hne : ¬ SameEncoding v w) : ¬ SameAliases derived (.dict (exchanged derived v w)) := by
  rintro ⟨sides', hsides, hsame⟩
  obtain rfl := Tree.dict.inj hsides
  obtain ⟨e, he, rfl⟩ := List.mem_map.mp (hassignment.values.mem_iff.mpr hv)
  have hk := hsame e.1
  rw [lookup_exchanged, lookup_of_mem hassignment.nodup (show (e.1, e.2) ∈ derived from he)] at hk
  obtain ⟨u, hu, hsameu⟩ := rel_some_left hk
  obtain rfl : exchange e.2 w e.2 = u := Option.some.inj hu
  rw [exchange, if_pos rfl] at hsameu
  exact hne hsameu

end

/-- A mapping is judged by the encodings of its aliases exactly when Python's `==` separates the
selectors of its slots. -/
lemma separated_iff {used existing : List String} {before : Evidence}
    (hkeys : (Tree.dict fields).keysOk distinct = true)
    (hbefore : before.keysOk distinct = true)
    (hvalid : IsValid .mapping (withAliases fields before))
    (hslots : fields.lookup "exact_source_slot_selectors" = some (.list slots))
    (hsecrets : checkSecrets fields used = .ok ())
    (hbundle : checkBundleId hmac fields existing = .ok ())
    (hderived : derivedAliases hmac fields = .ok derived) :
    (∀ a : Evidence, a.keysOk distinct = true →
      (verifyMappingAssignment hmac (.dict (withAliases fields a)) used existing = .ok () ↔
        SameAliases derived a)) ↔ Separated slots := by
  have hmem : "aliases" ∈ fields.map Prod.fst := by
    rw [← @keys_withAliases fields before]
    exact (hasKeys_iff.mp hvalid.keys _).mpr (by decide)
  have hassignment := isAssignment_of_derivedAliases hslots hderived
  have hslot : ∀ v ∈ slots, v.keysOk distinct = true ∧ ∃ text, canonicalJson v = .ok text := by
    intro v hv
    obtain ⟨slots', -, -, -, ⟨hslots', hselectors⟩, -⟩ :=
      validateMapping_eq_ok.mp (hvalid.mapping rfl)
    rw [lookup_withAliases (by decide), hslots] at hslots'
    obtain rfl := Tree.list.inj (Option.some.inj hslots')
    exact ⟨Tree.keysOkItems_iff.mp (keysOk_of_lookup hkeys hslots) v hv,
      exists_canonicalJson_of_selector (selector_of_mem hselectors hv)⟩
  have haccept : ∀ a : Evidence, a.keysOk distinct = true →
      (verifyMappingAssignment hmac (.dict (withAliases fields a)) used existing = .ok () ↔
        (∃ sides, a = .dict sides ∧ Covers sides slots) ∧ Evidence.eq (.dict derived) a = true) := by
    intro a ha
    rw [verifyMappingAssignment_eq_ok hmem hsecrets hbundle hderived,
      isValid_withAliases hkeys hbefore ha hslots hvalid]
  constructor
  · intro h v hv w hw heq
    by_contra hne
    have hexchanged : (Tree.dict (exchanged derived v w)).keysOk distinct = true := by
      refine Bool.and_eq_true_iff.mpr ⟨?_, Tree.keysOkEntries_iff.mpr fun e he => ?_⟩
      · rw [keys_exchanged]
        exact distinct_iff.mpr hassignment.nodup
      · obtain ⟨e', he', rfl⟩ := List.mem_map.mp he
        exact (hslot _ (exchange_mem hv hw
          (hassignment.values.mem_iff.mp (List.mem_map_of_mem he')))).1
    refine not_sameAliases_exchanged hassignment hv hne ((h _ hexchanged).mp
      ((haccept _ hexchanged).mpr ⟨⟨_, rfl, covers_exchanged hassignment hslot hv hw⟩, ?_⟩))
    refine (eq_dict_iff hassignment.nodup (by rw [keys_exchanged]; exact hassignment.nodup)).mpr
      fun k => ?_
    rw [lookup_exchanged]
    cases hk : derived.lookup k with
    | none => exact .none
    | some u => exact .some (eq_exchange hslot hv hw heq (hassignment.mem_slots hk))
  · intro hseparated a ha
    rw [haccept a ha]
    constructor
    · rintro ⟨⟨sides, rfl, hcovers⟩, heq⟩
      exact sameAliases_of_eq hassignment hslot hseparated ha hcovers heq
    · rintro ⟨sides, rfl, hsame⟩
      have hnodup := distinct_iff.mp (Bool.and_eq_true_iff.mp ha).1
      exact ⟨⟨sides, rfl, covers_of_sameAliases hassignment hnodup hsame⟩,
        eq_of_sameAliases hassignment hslot ha hsame⟩

end

/-- Preimages of one bundle without ties get one alias each, whatever their order.  A mapping
whose other fields are valid is accepted exactly with its derived aliases if and only if Python's
`==` tells the selectors of its slots apart. -/
theorem aliasAssignment_law (hmac : Bytes → String → Bytes)
    (hlength : ∀ key text, (hmac key text).length = 32) :
    (∀ (seed : Seed) (key : Bytes) (preimages : List Evidence) (current : String),
      seed.key = .ok key → preimages ≠ [] →
      (∀ p ∈ preimages, p.keysOk distinct = true ∧
        ∃ fields, validate .aliasAssignment p = .ok fields ∧
          canonicalJson (bundleMetadata fields) = .ok current) →
      (preimages.map (keyed hmac key .aliasAssignment)).Nodup →
      ∃ aliases sources, List.Forall₂ IsSource preimages sources ∧
        IsAssignment aliases sources ∧
        ∀ preimages', preimages'.Perm preimages →
          orderedAliases hmac seed preimages' = .ok aliases) ∧
      ∀ (fields : Fields) (before : Evidence) (slots : List Evidence)
        (used existing : List String),
        (Tree.dict fields).keysOk distinct = true → before.keysOk distinct = true →
        IsValid .mapping (withAliases fields before) →
        fields.lookup "exact_source_slot_selectors" = some (.list slots) →
        checkSecrets fields used = .ok () → checkBundleId hmac fields existing = .ok () →
        NoTies hmac fields →
        ∃ derived, derivedAliases hmac fields = .ok derived ∧ IsAssignment derived slots ∧
          ((∀ a : Evidence, a.keysOk distinct = true →
            (verifyMappingAssignment hmac (.dict (withAliases fields a)) used existing = .ok () ↔
              SameAliases derived a)) ↔ Separated slots) := by
  constructor
  · intro seed key preimages current hseed hne hbundle hties
    obtain ⟨aliases, haliases⟩ := exists_orderedAliases hlength hseed hne
      (fun p hp => (hbundle p hp).1) (fun p hp => (hbundle p hp).2) hties
    obtain ⟨sources, hsources, hassignment⟩ := isAssignment_of_orderedAliases haliases
    exact ⟨aliases, sources, hsources, hassignment, fun _ hperm =>
      orderedAliases_perm hperm haliases⟩
  · intro fields before slots used existing hkeys hbefore hvalid hslots hsecrets hbundle hties
    obtain ⟨derived, hderived⟩ := exists_derivedAliases hlength hkeys hbefore hvalid hties
    exact ⟨derived, hderived, isAssignment_of_derivedAliases hslots hderived,
      separated_iff hkeys hbefore hvalid hslots hsecrets hbundle hderived⟩

/-! ## Selectors Python takes for equal -/

/-- The lengths of the texts, as a digest. -/
def lengthDigest (_ : Bytes) (text : String) : Bytes :=
  List.replicate 32 (text.utf8ByteSize % 256)

def sampleSeed : String := "1111111111111111111111111111111111111111111111111111111111111111"

def sampleNonce : String := "2222222222222222222222222222222222222222222222222222222222222222"

/-- `\x7b"a": True\x7d` and `\x7b"a": 1\x7d` -/
def sampleSlots : List Evidence := [.dict [("a", .bool true)], .dict [("a", .num (.int 1))]]

/-- A mapping of two slots, its aliases left open. -/
def sampleMapping : Fields :=
  [("canonical_encoding_version", .str encodingVersion), ("protocol_id", .str "p"),
    ("amendment_id", .str "a"), ("package_id", .str "k"),
    ("algorithm_version", .str algorithmVersion), ("frozen_manifest_sha256", .str sampleSeed),
    ("private_manifest_position", .num (.int 1)), ("source_artifact_sha256", .str sampleSeed),
    ("exact_source_slot_selectors", .list sampleSlots),
    ("complete_required_repeat_selectors", .list sampleSlots),
    ("bundle_review_id", .str (toHex (List.replicate 32 25))), ("bundle_seed", .str sampleSeed),
    ("commitment_nonce", .str sampleNonce), ("aliases", .null),
    ("source_identity_bindings", .dict [("SIDE_1", .str "x"), ("SIDE_2", .str "y")]),
    ("reviewer_access_policy_sha256", .str sampleSeed)]

/-- The derived aliases of the sample are the other way round. -/
def sampleSwapped : Evidence :=
  .dict [("SIDE_1", .dict [("a", .bool true)]), ("SIDE_2", .dict [("a", .num (.int 1))])]

/-- The check takes the aliases of the sample, and the derived ones begin with the other slot. -/
lemma swapped_sample :
    verifyMappingAssignment lengthDigest (.dict (withAliases sampleMapping sampleSwapped)) [] [] =
      .ok () ∧
    (derivedAliases lengthDigest sampleMapping).toOption.bind
      (fun derived => (derived.lookup "SIDE_1").bind exactJson) = some "\x7b\"a\":1\x7d" := by
  decide +kernel

/-- The swapped aliases are accepted, though they are not the derived ones. -/
theorem verifyMappingAssignment_swapped :
    verifyMappingAssignment lengthDigest (.dict (withAliases sampleMapping sampleSwapped)) [] [] =
        .ok () ∧
      ∀ derived, derivedAliases lengthDigest sampleMapping = .ok derived →
        ¬ SameAliases derived sampleSwapped := by
  refine ⟨swapped_sample.1, fun derived hderived => ?_⟩
  rintro ⟨sides, hsides, hsame⟩
  obtain rfl := Tree.dict.inj hsides
  have hfirst := swapped_sample.2
  rw [hderived] at hfirst
  obtain ⟨v, hv, htext⟩ := Option.bind_eq_some_iff.mp (show
    (derived.lookup "SIDE_1").bind exactJson = some "\x7b\"a\":1\x7d" from hfirst)
  have hk := hsame "SIDE_1"
  rw [hv] at hk
  obtain ⟨w, hw, text, hjson, hjson'⟩ := rel_some_left hk
  obtain rfl : Tree.dict [("a", .bool true)] = w := Option.some.inj hw
  have htrue : exactJson (.dict [("a", .bool true)]) = some "\x7b\"a\":true\x7d" := by
    decide
  rw [(canonicalJson_eq_ok.mp hjson).2, ← (canonicalJson_eq_ok.mp hjson').2, htrue] at htext
  exact absurd htext (by decide)

theorem aliasAssignment_law_sample :
    ∃ derived, derivedAliases lengthDigest sampleMapping = .ok derived ∧
      IsAssignment derived sampleSlots ∧
        ((∀ a : Evidence, a.keysOk distinct = true →
          (verifyMappingAssignment lengthDigest (.dict (withAliases sampleMapping a)) [] [] =
            .ok () ↔ SameAliases derived a)) ↔ Separated sampleSlots) := by
  obtain ⟨hvalid, hsecrets, hbundle, derived, hderived⟩ :=
    checks_of_verify swapped_sample.1
  exact (aliasAssignment_law lengthDigest fun _ _ => List.length_replicate).2 sampleMapping
    sampleSwapped sampleSlots [] [] (by decide) (by decide) hvalid rfl hsecrets
    hbundle (noTies_of_derivedAliases hderived)

end CivicGate.Rq6.Crypto
