import CivicGate.Console.AdvisorReport

/-!
# What leaves the local evidence view

`build_payload` is given dictionaries of any shape.  Every string of the payload it returns, keys
included, is a name or an enumerated value of the module, an identifier the function made itself,
or a digest (`buildPayload_text`).

Values that are none of JSON's are passed over, or rejected, wherever a `float` is.
-/

namespace CivicGate.Console

/-! ## Reading the dictionaries -/

/-- `observation.get(name, {})`, of which `.get` is called next. -/
def sectionOf (observation : Json) (name : String) : Option (List (String × Json)) :=
  match observation.get? name with
  | none => some []
  | some (.dict kvs) => some kvs
  | some _ => none

/-- A row of the artifacts.  A path that is no text is no source: it makes the sort raise, or is
alone and leaves the payload without a source. -/
def artifactOf : Json → Option Artifact
  | .dict row =>
    match row.lookup "path" with
    | some (.str path) =>
      some ⟨path, (row.lookup "sha256").getD .null, (row.lookup "bytes").getD .null⟩
    | _ => none
  | _ => none

/-- `observation.get("artifacts", [])`; what is no list is empty and leaves no source, or holds
rows without `get`. -/
def artifactsOf (observation : Json) : Option (List Artifact) :=
  match observation.get? "artifacts" with
  | some (.list rows) => rows.mapM artifactOf
  | _ => none

/-- What `build_payload` reads of an observation. -/
def readObservation (observation : Json) : Option Observation := do
  let integrity ← observation.get? "integrity"
  let artifacts ← artifactsOf observation
  let policy ← sectionOf observation "policy"
  let judge ← sectionOf observation "judge"
  let binding ← sectionOf observation "binding"
  let backend ← sectionOf observation "backend"
  let result ← sectionOf observation "result"
  let custody ← sectionOf observation "custody"
  return { integrity, artifacts, policy, judge, binding, backend, result, custody, others := [] }

/-- `build_payload(run, observation)` for any dictionaries; `none` if it raises. -/
def buildPayloadFrom (run observation : Json) : Option (Payload × List LocalSource) := do
  let integrity ← run.normalize.getStr? "integrity"
  let o ← readObservation observation.normalize
  -- The digest of the manifest is not read.
  (buildPayload { integrity, manifestSha256 := "" } o).toOption

/-! ## Sources -/

/-- The sources are numbered from one on, and each has a name of its own. -/
structure Collected (found : List (String × LocalSource)) : Prop where
  ids : found.map (·.2.source.id) = (List.range found.length).map fun i => numbered "S" (i + 1)
  nodup : (found.map Prod.fst).Nodup
  names : ∀ e ∈ found, e.1 ∈ sourceNames
  digests : ∀ e ∈ found, isSha256Hex e.2.source.sha256 = true

lemma collected_nil : Collected [] where
  ids := rfl
  nodup := List.nodup_nil
  names _ he := nomatch he
  digests _ he := nomatch he

lemma collected_append {found : List (String × LocalSource)} {name path sha : String} {size : ℕ}
    (h : Collected found) (hname : name ∈ sourceNames) (hnew : name ∉ found.map Prod.fst)
    (hsha : isSha256Hex sha = true) :
    Collected (found ++ [(name, ⟨⟨numbered "S" (found.length + 1), size, sha⟩, path⟩)]) where
  ids := by
    rw [List.map_append, h.ids, List.length_append, List.length_singleton, List.range_succ,
      List.map_append]
    rfl
  nodup := by
    rw [List.map_append, List.map_singleton, List.nodup_append]
    refine ⟨h.nodup, List.nodup_singleton name, fun a ha b hb => ?_⟩
    rw [List.mem_singleton.mp hb]
    rintro rfl
    exact hnew ha
  names := List.forall_mem_append.mpr ⟨h.names, by simpa using hname⟩
  digests := List.forall_mem_append.mpr ⟨h.digests, by simpa using hsha⟩

lemma collected_collectSources {rows : List Artifact} {found names : List (String × LocalSource)}
    (hfound : Collected found) (h : collectSources found rows = .ok names) : Collected names := by
  induction rows generalizing found with
  | nil =>
      obtain rfl := Except.pure_eq_ok.mp h
      exact hfound
  | cons a rest ih =>
      unfold collectSources at h
      by_cases hname : baseName a.path ∈ sourceNames
      · simp only [hname, not_true_eq_false, if_false] at h
        by_cases hpath : isCasePath a.path = true
        · simp only [hpath, Bool.not_true, Bool.false_eq_true, if_false] at h
          split at h
          · split_ifs at h with hrow
            exact ih (collected_append hfound hname hrow.2.2 hrow.1) h
          · cases h
        · simp only [hpath, Bool.not_false, if_true] at h
          cases h
      · simp only [hname, not_false_eq_true, if_true] at h
        exact ih hfound h

/-! ## The vocabulary -/

/-- The names of the facts. -/
def factNames : List String :=
  ["evidence.integrity", "policy.state", "policy.initial_decision", "policy.final_disposition",
    "judge.state", "judge.call_observed", "judge.synthetic", "judge.classification",
    "binding.state", "binding.issued_count", "binding.consumed_count",
    "binding.pre_dispatch_verification", "backend.state", "backend.adapter_entries",
    "backend.mock_transport_attempts", "backend.dispatch_state", "backend.response_state",
    "backend.verified_absence", "result.state", "result.verification_state", "custody.state",
    "custody.database_state", "custody.returned_close_ack", "custody.restart_preserved",
    "custody.summary_sha256"]

/-- The enumerated values. -/
def enumValues : List String :=
  states ++ decisions ++
    ["IN_SCOPE", "OUT_OF_SCOPE", "AMBIGUOUS", "POSSIBLE_AUTHORITY_OVERREACH",
      "CONSEQUENTIAL_INTERPRETATION", "INSUFFICIENT_INFORMATION", "PASS", "FAIL", "NOT_REQUIRED",
      "PENDING_PRE_DISPATCH", "REQUEST_CONFIRMED", "NOT_DISPATCHED", "DISPATCH_ATTEMPTED",
      "DISPATCH_UNKNOWN", "RESPONSE_RECEIVED", "NO_RESPONSE", "TRANSPORT_ERROR",
      "RESULT_VERIFIED", "UNVERIFIED", "RESULT_UNKNOWN", "FAILED_VALIDATION", "OPEN", "CLOSED",
      "ACKNOWLEDGED", "NOT_ATTEMPTED_UNSAFE_OR_INCOMPLETE"]

/-- The keys of the payload, of its facts and of its sources. -/
def payloadKeys : List String :=
  ["version", "observation_id", "integrity", "facts", "sources", "limitations", "id", "name",
    "value", "source_ids", "bytes", "sha256"]

/-- The names and the enumerated values of the module. -/
def vocabulary : List String := payloadKeys ++ factNames ++ enumValues ++ limitations

/-- An identifier that `build_payload` makes itself. -/
def IsIdentifier (s : String) : Prop :=
  s = "obs-1" ∨ ∃ n, s = numbered "F" (n + 1) ∨ s = numbered "S" (n + 1)

/-- A string that may leave. -/
def IsPublic (s : String) : Prop := s ∈ vocabulary ∨ IsIdentifier s ∨ isSha256Hex s = true

/-- A value that a fact may have. -/
inductive IsFactValue : Json → Prop
  | null : IsFactValue .null
  | bool (b : Bool) : IsFactValue (.bool b)
  | count {n : ℤ} (hn : 0 ≤ n ∧ n ≤ 1000) : IsFactValue (.int n)
  | enum {s : String} (hs : s ∈ enumValues) : IsFactValue (.str s)
  | digest {s : String} (hs : isSha256Hex s = true) : IsFactValue (.str s)

lemma isFactValue_enum {allowed : List String} (hallowed : allowed ⊆ enumValues)
    (value : Option Json) : IsFactValue (enumValue value allowed) := by
  unfold enumValue
  split
  · split_ifs with hs
    · exact .enum (hallowed hs)
    · exact .null
  · exact .null

lemma isFactValue_bool (value : Option Json) : IsFactValue (boolValue value) := by
  unfold boolValue
  split
  · exact .bool _
  · exact .null

lemma isFactValue_count (value : Option Json) : IsFactValue (countValue value) := by
  unfold countValue
  split
  · split_ifs with hn
    · exact .count hn
    · exact .null
  · exact .null

lemma isFactValue_sha (value : Option Json) : IsFactValue (shaValue value) := by
  unfold shaValue
  split
  · split_ifs with hs
    · exact .digest hs
    · exact .null
  · exact .null

/-- Every row of the facts has its name and passes its filter. -/
lemma factRows_filtered (o : Observation) (names : List String) :
    (factRows o names).map Prod.fst = factNames ∧
      ∀ row ∈ factRows o names, IsFactValue row.2.1 := by
  refine ⟨rfl, ?_⟩
  simp only [factRows, List.forall_mem_cons]
  refine ⟨isFactValue_enum (by decide) _, isFactValue_enum (by decide) _,
    isFactValue_enum (by decide) _, isFactValue_enum (by decide) _,
    isFactValue_enum (by decide) _, isFactValue_bool _, isFactValue_bool _,
    isFactValue_enum (by decide) _, isFactValue_enum (by decide) _, isFactValue_count _,
    isFactValue_count _, isFactValue_enum (by decide) _, isFactValue_enum (by decide) _,
    isFactValue_count _, isFactValue_count _, isFactValue_enum (by decide) _,
    isFactValue_enum (by decide) _, isFactValue_bool _, isFactValue_enum (by decide) _,
    isFactValue_enum (by decide) _, isFactValue_enum (by decide) _,
    isFactValue_enum (by decide) _, isFactValue_enum (by decide) _, isFactValue_bool _,
    isFactValue_sha _, nofun⟩

/-! ## The strings of a document -/

mutual
/-- The strings of a document at any depth, keys included. -/
def Json.strings : Json → List String
  | .str s => [s]
  | .list xs => Json.stringsList xs
  | .dict kvs => Json.stringsDict kvs
  | _ => []
/-- `Json.strings` on list items. -/
def Json.stringsList : List Json → List String
  | [] => []
  | x :: xs => Json.strings x ++ Json.stringsList xs
/-- `Json.strings` on dictionary entries. -/
def Json.stringsDict : List (String × Json) → List String
  | [] => []
  | (k, v) :: rest => k :: Json.strings v ++ Json.stringsDict rest
end

lemma stringsList_eq (xs : List Json) : Json.stringsList xs = xs.flatMap Json.strings := by
  induction xs with
  | nil => rfl
  | cons x xs ih => rw [Json.stringsList, ih, List.flatMap_cons]

/-- The strings of an object are public if its keys are and the strings of its values. -/
lemma forall_strings_dict {P : String → Prop} {kvs : List (String × Json)}
    (h : ∀ e ∈ kvs, P e.1 ∧ ∀ s ∈ Json.strings e.2, P s) :
    ∀ s ∈ Json.strings (.dict kvs), P s := by
  show ∀ s ∈ Json.stringsDict kvs, P s
  induction kvs with
  | nil => exact fun _ hs => nomatch hs
  | cons e rest ih =>
      obtain ⟨k, v⟩ := e
      obtain ⟨⟨hk, hv⟩, hrest⟩ := List.forall_mem_cons.mp h
      rw [Json.stringsDict]
      exact List.forall_mem_cons.mpr ⟨hk, List.forall_mem_append.mpr ⟨hv, ih hrest⟩⟩

lemma forall_strings_list {P : String → Prop} {xs : List Json}
    (h : ∀ x ∈ xs, ∀ s ∈ Json.strings x, P s) : ∀ s ∈ Json.strings (.list xs), P s := by
  show ∀ s ∈ Json.stringsList xs, P s
  rw [stringsList_eq]
  intro s hs
  obtain ⟨x, hx, hs⟩ := List.mem_flatMap.mp hs
  exact h x hx s hs

/-! ## The payload -/

/-- The payload is made of the sources that were collected. -/
lemma buildPayload_eq_ok {run : RunView} {o : Observation} {payload : Payload}
    {locals : List LocalSource} (h : buildPayload run o = .ok (payload, locals)) :
    ∃ names, collectSources [] (o.artifacts.mergeSort fun a b => a.path ≤ b.path) = .ok names ∧
      payload.integrity ∈ ["VERIFIED", "PARTIAL", "UNKNOWN"] ∧
      payload.facts = (factRows o (names.map Prod.fst)).mapIdx (newFact names) ∧
      payload.sources = names.map (·.2.source) := by
  simp only [buildPayload, Except.bind_eq_ok, ensure_eq_ok] at h
  obtain ⟨-, -, h⟩ := h
  split at h
  · simp only [Except.bind_eq_ok, ensure_eq_ok, Except.pure_eq_ok, Prod.mk.injEq,
      decide_eq_true_eq] at h
    obtain ⟨-, hintegrity, names, hnames, -, -, hpayload, -⟩ := h
    refine ⟨names, hnames, ?_, ?_, ?_⟩
    · rw [← hpayload]
      exact hintegrity
    · rw [← hpayload]
    · rw [← hpayload]
  · cases h

/-- The dictionaries are read before the payload is built. -/
lemma buildPayloadFrom_eq_some {run observation : Json} {payload : Payload}
    {locals : List LocalSource} (h : buildPayloadFrom run observation = some (payload, locals)) :
    ∃ view o, readObservation observation.normalize = some o ∧
      buildPayload view o = .ok (payload, locals) := by
  simp only [buildPayloadFrom, Option.bind_eq_bind, Option.bind_eq_some_iff] at h
  obtain ⟨integrity, -, o, ho, h⟩ := h
  refine ⟨{ integrity, manifestSha256 := "" }, o, ho, ?_⟩
  cases hbuild : buildPayload { integrity, manifestSha256 := "" } o with
  | error e =>
      rw [hbuild] at h
      cases h
  | ok result =>
      rw [hbuild] at h
      exact congrArg Except.ok (Option.some.inj h)

lemma isPublic_of_mem {s : String} (h : s ∈ vocabulary) : IsPublic s := .inl h

/-- The identifiers of the sources are the function's own. -/
lemma Collected.isPublic {names : List (String × LocalSource)} (h : Collected names)
    {e : String × LocalSource} (he : e ∈ names) : IsPublic e.2.source.id := by
  have hid : e.2.source.id ∈ (List.range names.length).map fun i => numbered "S" (i + 1) := by
    rw [← h.ids]
    exact List.mem_map_of_mem he
  obtain ⟨i, -, hi⟩ := List.mem_map.mp hid
  exact .inr (.inl (.inr ⟨i, .inr hi.symm⟩))

lemma Collected.source_strings {names : List (String × LocalSource)} (h : Collected names)
    {e : String × LocalSource} (he : e ∈ names) :
    ∀ s ∈ Json.strings e.2.source.toJson, IsPublic s := by
  refine forall_strings_dict ?_
  simp only [List.forall_mem_cons]
  refine ⟨⟨isPublic_of_mem (by decide), nofun⟩, ⟨isPublic_of_mem (by decide), ?_⟩,
    ⟨isPublic_of_mem (by decide), ?_⟩, nofun⟩
  · exact List.forall_mem_cons.mpr ⟨h.isPublic he, nofun⟩
  · exact List.forall_mem_cons.mpr ⟨.inr (.inr (h.digests e he)), nofun⟩

/-- What a fact may hold. -/
lemma newFact_spec {o : Observation} {names : List (String × LocalSource)} (h : Collected names)
    {fact : Fact} (hfact : fact ∈ (factRows o (names.map Prod.fst)).mapIdx (newFact names)) :
    (∃ n, fact.id = numbered "F" (n + 1)) ∧ fact.name ∈ factNames ∧ IsFactValue fact.value ∧
      (∀ id ∈ fact.sourceIds, IsPublic id) ∧ (fact.sourceIds = [] → fact.value = .null) := by
  obtain ⟨i, hi, rfl⟩ := List.mem_mapIdx.mp hfact
  obtain ⟨hnames, hvalues⟩ := factRows_filtered o (names.map Prod.fst)
  have hrow := List.getElem_mem hi
  refine ⟨⟨i, rfl⟩, ?_, ?_, ?_, fun hids => if_pos hids⟩
  · rw [← hnames]
    exact List.mem_map_of_mem hrow
  · show IsFactValue (if _ then _ else _)
    split_ifs
    · exact .null
    · exact hvalues _ hrow
  · intro id hid
    obtain ⟨name, -, hname⟩ := List.mem_filterMap.mp hid
    obtain ⟨source, hsource, rfl⟩ := Option.map_eq_some_iff.mp hname
    obtain ⟨before, after, hsplit, -⟩ := List.lookup_eq_some_iff.mp hsource
    have hmem : (name, source) ∈ names := by
      rw [hsplit]
      exact List.mem_append_right _ List.mem_cons_self
    exact h.isPublic hmem

lemma fact_strings {fact : Fact} (hid : ∃ n, fact.id = numbered "F" (n + 1))
    (hname : fact.name ∈ factNames) (hvalue : IsFactValue fact.value)
    (hids : ∀ id ∈ fact.sourceIds, IsPublic id) :
    ∀ s ∈ Json.strings fact.toJson, IsPublic s := by
  refine forall_strings_dict ?_
  simp only [List.forall_mem_cons]
  refine ⟨⟨isPublic_of_mem (by decide), ?_⟩, ⟨isPublic_of_mem (by decide), ?_⟩,
    ⟨isPublic_of_mem (by decide), ?_⟩, ⟨isPublic_of_mem (by decide), ?_⟩, nofun⟩
  · obtain ⟨n, hn⟩ := hid
    exact List.forall_mem_cons.mpr ⟨.inr (.inl (.inr ⟨n, .inl hn⟩)), nofun⟩
  · refine List.forall_mem_cons.mpr ⟨isPublic_of_mem ?_, nofun⟩
    simp only [vocabulary, List.mem_append, hname, true_or, or_true]
  · refine forall_strings_list fun x hx => ?_
    obtain ⟨id, hid, rfl⟩ := List.mem_map.mp hx
    exact List.forall_mem_cons.mpr ⟨hids id hid, nofun⟩
  · show ∀ s ∈ Json.strings fact.value, IsPublic s
    generalize fact.value = v at hvalue
    cases hvalue with
    | null => exact nofun
    | bool b => exact nofun
    | count hn => exact nofun
    | enum hs =>
        refine List.forall_mem_cons.mpr ⟨isPublic_of_mem ?_, nofun⟩
        simp only [vocabulary, List.mem_append, hs, true_or, or_true]
    | digest hs => exact List.forall_mem_cons.mpr ⟨.inr (.inr hs), nofun⟩

/-- Whatever the dictionaries hold, every string of the payload, keys included, is a name or an
enumerated value of the module, an identifier the function made itself or a digest; every fact's
value is null, a boolean, an integer up to 1000 or such a string, and null without a source. -/
theorem buildPayload_text (run observation : Json) (payload : Payload) (locals : List LocalSource)
    (h : buildPayloadFrom run observation = some (payload, locals)) :
    (∀ s ∈ Json.strings payload.toJson, IsPublic s) ∧
      ∀ fact ∈ payload.facts, IsFactValue fact.value ∧
        (fact.sourceIds = [] → fact.value = .null) := by
  obtain ⟨view, o, -, hbuild⟩ := buildPayloadFrom_eq_some h
  obtain ⟨names, hcollect, hintegrity, hfacts, hsources⟩ := buildPayload_eq_ok hbuild
  have hnames := collected_collectSources collected_nil hcollect
  constructor
  · refine forall_strings_dict ?_
    simp only [List.forall_mem_cons]
    refine ⟨⟨isPublic_of_mem (by decide), forall_strings_list fun x hx => ?_⟩,
      ⟨isPublic_of_mem (by decide), ?_⟩, ⟨isPublic_of_mem (by decide), ?_⟩,
      ⟨isPublic_of_mem (by decide), ?_⟩,
      ⟨isPublic_of_mem (by decide), forall_strings_list fun x hx => ?_⟩,
      ⟨isPublic_of_mem (by decide), nofun⟩, nofun⟩
    · obtain ⟨fact, hfact, rfl⟩ := List.mem_map.mp hx
      rw [hfacts] at hfact
      obtain ⟨hid, hname, hvalue, hids, -⟩ := newFact_spec hnames hfact
      exact fact_strings hid hname hvalue hids
    · refine List.forall_mem_cons.mpr ⟨isPublic_of_mem ?_, nofun⟩
      revert hintegrity
      generalize payload.integrity = s
      revert s
      decide
    · refine forall_strings_list fun x hx => ?_
      obtain ⟨s, hs, rfl⟩ := List.mem_map.mp hx
      refine List.forall_mem_cons.mpr ⟨isPublic_of_mem ?_, nofun⟩
      simp only [vocabulary, List.mem_append, hs, or_true]
    · exact List.forall_mem_cons.mpr ⟨.inr (.inl (.inl rfl)), nofun⟩
    · obtain ⟨source, hsource, rfl⟩ := List.mem_map.mp hx
      rw [hsources] at hsource
      obtain ⟨e, he, rfl⟩ := List.mem_map.mp hsource
      exact hnames.source_strings he
  · intro fact hfact
    rw [hfacts] at hfact
    obtain ⟨-, -, hvalue, -, hnull⟩ := newFact_spec hnames hfact
    exact ⟨hvalue, hnull⟩

/-- An observation with request text where an enumerated value belongs. -/
def capturedObservation : Json :=
  .dict [("integrity", .str "VERIFIED"),
    ("policy", .dict [("state", .str "OBSERVED"),
      ("initial_decision", .str "List the awards of my agency")]),
    ("artifacts", .list [.dict [("path", .str "execution/cases/permit/audit.jsonl"),
      ("sha256", .str "0000000000000000000000000000000000000000000000000000000000000000"),
      ("bytes", .int 1)]])]

theorem buildPayload_text_captured : ∃ payload locals,
    buildPayloadFrom (.dict [("integrity", .str "VERIFIED")]) capturedObservation =
      some (payload, locals) ∧ ∀ s ∈ Json.strings payload.toJson, IsPublic s := by
  have hsome : (buildPayloadFrom (.dict [("integrity", .str "VERIFIED")])
      capturedObservation).isSome = true := by decide +kernel
  obtain ⟨⟨payload, locals⟩, h⟩ := Option.isSome_iff_exists.mp hsome
  exact ⟨payload, locals, h, (buildPayload_text _ _ _ _ h).1⟩

end CivicGate.Console
