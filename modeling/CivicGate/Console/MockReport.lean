import CivicGate.Console.MockAdvisor
import CivicGate.Framework.Json.Printing

/-!
# Whether the report of the mock advisor is accepted

A finding must cite a source, and a fact cites the sources of its own that the observation has.
So `validate_report` accepts the report of `MockAdvisor` if and only if the observation has
`audit.jsonl` and one of the two files of the custody (`mockReport_accepted_iff`).
-/

namespace CivicGate.Console

section

variable {p : Payload} {o : Observation} {names : List (String × LocalSource)}

/-- The five calls of `finding` leave five findings. -/
lemma Built.mockFindings_iff (h : Built p o names) (t : CharTables) :
    (mockFindings p).length = 5 ∧
      (validateFindings (readerScreen t) p [] ((mockFindings p).map Json.normalize) = .ok () ↔
        ∀ d ∈ drafts p, d.sourceIds p ≠ []) := by
  have hcount : (drafts p).length = 5 := rfl
  obtain ⟨more, hfold, hlength, hiff⟩ :=
    h.validateFindings_iff t (drafts p) [] (drafts_sound p) (by rw [hcount]; decide)
  rw [hcount] at hlength
  have hfindings : mockFindings p = more := by
    have hne : (drafts p).foldl (addFinding p) [] ≠ [] := by
      rw [hfold]
      exact List.ne_nil_of_length_eq_add_one hlength
    rw [mockFindings, if_neg hne]
    exact hfold
  rw [hfindings]
  exact ⟨hlength, hiff⟩

/-- The summary is plain. -/
lemma summary_passing (p : Payload) :
    Passing ("Synthetic advisory fixture: recorded initial " ++
      p.shown "policy.initial_decision" ++ " and final " ++ p.shown "policy.final_disposition" ++
      ". This report grants no authority.") := by
  have hfirst : EndsOpen 60 "Synthetic advisory fixture: recorded initial ".toList :=
    of_literal (by decide)
  have hsecond := @Opened.next _ " and final " 60 60 hfirst.opened (of_literal (by decide))
    (of_literal (by decide)) p "policy.initial_decision"
  exact (@Opened.value _ ". This report grants no authority." _ 60 hsecond
    (of_literal (by decide)) p "policy.final_disposition").passing (by decide)

lemma mockReport_fields (p : Payload) :
    let report := (mockReport p).normalize
    report.hasFields ["version", "summary", "findings", "limitations"] = true ∧
      report.get? "version" = some (.int 1) ∧
      (∃ summary, report.get? "summary" = some (.str summary) ∧ Passing summary) ∧
      report.getList? "limitations" = some [.str "Synthetic provider; no real Anthropic call.",
        .str "CLOSED documentary custody does not mean human acceptance."] ∧
      report.getList? "findings" = some ((mockFindings p).map Json.normalize) := by
  intro report
  let entries : List (String × Json) := [("version", .int 1),
    ("summary", .str ("Synthetic advisory fixture: recorded initial " ++
      p.shown "policy.initial_decision" ++ " and final " ++ p.shown "policy.final_disposition" ++
      ". This report grants no authority.")),
    ("findings", .list (mockFindings p)),
    ("limitations", .list [.str "Synthetic provider; no real Anthropic call.",
      .str "CLOSED documentary custody does not mean human acceptance."])]
  have hnodup : ["version", "summary", "findings", "limitations"].Nodup := by decide
  have hget : ∀ k, report.get? k = (entries.lookup k).map Json.normalize :=
    @Json.get?_normalize entries hnodup
  refine ⟨Json.hasFields_normalize hnodup (List.Perm.refl _), ?_, ⟨_, ?_, summary_passing p⟩, ?_, ?_⟩
  · simp [hget, entries]
  · simp [hget, entries, List.lookup_cons]
  · simp [Json.getList?, hget, entries, List.lookup_cons, Json.normalize, Json.normalizeList_eq_map]
  · simp [Json.getList?, hget, entries, List.lookup_cons, Json.normalize, Json.normalizeList_eq_map]

/-- The report is accepted if every draft has a source. -/
lemma Built.mockReport_iff (h : Built p o names) (t : CharTables) :
    (∃ accepted, validateReport (readerScreen t) (mockReport p) p = .ok accepted) ↔
      ∀ d ∈ drafts p, d.sourceIds p ≠ [] := by
  obtain ⟨hlength, hiff⟩ := h.mockFindings_iff t
  obtain ⟨hfields, hversion, ⟨summary, hsummary, hpassing⟩, hlimitations, hfindings⟩ :=
    mockReport_fields p
  have hfirst : Passing "Synthetic provider; no real Anthropic call." :=
    (of_literal (P := PassesCheck) (by decide)).passing
  have hsecond : Passing "CLOSED documentary custody does not mean human acceptance." :=
    (of_literal (P := PassesCheck) (by decide)).passing
  have htwo : ([.str "Synthetic provider; no real Anthropic call.",
      .str "CLOSED documentary custody does not mean human acceptance."] : List Json).forM
        (fun value => reportText (readerScreen t) (some value) false 500) = .ok () := by
    simp only [List.forM, reportText_passing t hfirst le_rfl,
      reportText_passing t hsecond le_rfl, Except.ok_bind]
    rfl
  rw [← hiff]
  simp only [validateReport, hfields, hversion, hsummary, hlimitations, hfindings,
    reportText_passing t hpassing (by decide : 500 ≤ 1500), htwo, List.length_map, hlength,
    ensure_true, Except.ok_bind, decide_true]
  constructor
  · rintro ⟨accepted, haccepted⟩
    simp only [Except.bind_eq_ok] at haccepted
    obtain ⟨-, -, -, -, _, hvalid, -⟩ := haccepted
    exact hvalid
  · intro hvalid
    exact ⟨(mockReport p).normalize, by rw [hvalid]; rfl⟩

/-- The facts of some names have a source if one of them has one that was found. -/
lemma Built.sourceIds_ne_nil_iff (h : Built p o names) {ns : List String}
    (hns : ∀ n ∈ ns, n ∈ factNames) :
    (ns.filterMap p.byName).flatMap Fact.sourceIds ≠ [] ↔
      ∃ row ∈ factRows o (names.map Prod.fst), row.1 ∈ ns ∧ ∃ s ∈ row.2.2, s ∈ names.map Prod.fst := by
  obtain ⟨selected, hselected, hnames, hmem⟩ := h.exists_facts hns
  rw [hselected]
  constructor
  · intro hne
    obtain ⟨id, hid⟩ := List.exists_mem_of_ne_nil _ hne
    obtain ⟨fact, hfact, hid⟩ := List.mem_flatMap.mp hid
    have hrow := hmem fact hfact
    rw [h.facts] at hrow
    obtain ⟨i, hi, rfl⟩ := List.mem_mapIdx.mp hrow
    obtain ⟨s, hs, hsource⟩ := List.mem_filterMap.mp hid
    obtain ⟨source, hlookup, -⟩ := Option.map_eq_some_iff.mp hsource
    exact ⟨_, List.getElem_mem hi, hnames ▸ List.mem_map_of_mem hfact, s, hs,
      lookup_isSome.mp (by rw [hlookup]; rfl)⟩
  · rintro ⟨row, hrow, hn, s, hs, hname⟩
    obtain ⟨i, hi, rfl⟩ := List.getElem_of_mem hrow
    obtain ⟨source, hsource⟩ := Option.isSome_iff_exists.mp (lookup_isSome.mpr hname)
    have hfact : newFact names i (factRows o (names.map Prod.fst))[i] ∈ p.facts := by
      rw [h.facts]
      exact List.mem_mapIdx.mpr ⟨i, hi, rfl⟩
    refine List.ne_nil_of_mem (a := source.source.id)
      (List.mem_flatMap.mpr ⟨newFact names i (factRows o (names.map Prod.fst))[i], ?_, ?_⟩)
    · rw [← hselected]
      exact List.mem_filterMap.mpr ⟨_, hn, h.byName_eq hfact⟩
    · refine List.mem_filterMap.mpr ⟨s, hs, ?_⟩
      rw [hsource]
      rfl

/-- Every draft has a source if these files were found. -/
lemma Built.drafts_iff (h : Built p o names) :
    (∀ d ∈ drafts p, d.sourceIds p ≠ []) ↔ "audit.jsonl" ∈ names.map Prod.fst ∧
      ("coordinator.sqlite" ∈ names.map Prod.fst ∨
        "returned-summary.json" ∈ names.map Prod.fst) := by
  have hsound := drafts_sound p
  simp only [drafts, List.forall_mem_cons] at hsound ⊢
  obtain ⟨hdecision, hbinding, hexecution, hcustody, hscope, -⟩ := hsound
  simp only [Draft.sourceIds, h.sourceIds_ne_nil_iff hdecision.known,
    h.sourceIds_ne_nil_iff hbinding.known, h.sourceIds_ne_nil_iff hexecution.known,
    h.sourceIds_ne_nil_iff hcustody.known, h.sourceIds_ne_nil_iff hscope.known]
  generalize names.map Prod.fst = found
  simp only [factRows, List.mem_cons, List.not_mem_nil, or_false, exists_eq_or_imp,
    exists_eq_left, List.mem_append, String.reduceEq, or_self, or_true, true_and, false_and,
    false_or, and_self, false_imp_iff, implies_true, and_true]
  constructor
  · rintro ⟨haudit, -, -, hcustody, -⟩
    exact ⟨haudit, by tauto⟩
  · rintro ⟨haudit, hcustody⟩
    exact ⟨haudit, .inr (.inr haudit), by tauto, by tauto, _, haudit⟩

end

/-! ## The artifacts -/

/-- The observation lists a file of this name. -/
def HasSource (observation : Json) (name : String) : Prop :=
  ∃ artifacts, artifactsOf observation.normalize = some artifacts ∧
    ∃ a ∈ artifacts, baseName a.path = name

/-- The sources found are the artifacts with a known name. -/
lemma mem_collectSources {rows : List Artifact} {found names : List (String × LocalSource)}
    (h : collectSources found rows = .ok names) {n : String} :
    n ∈ names.map Prod.fst ↔
      n ∈ found.map Prod.fst ∨ n ∈ sourceNames ∧ ∃ a ∈ rows, baseName a.path = n := by
  induction rows generalizing found with
  | nil =>
      obtain rfl := Except.pure_eq_ok.mp h
      simp
  | cons a rest ih =>
      simp only [List.exists_mem_cons_iff]
      unfold collectSources at h
      by_cases hname : baseName a.path ∈ sourceNames
      · simp only [hname, not_true_eq_false, if_false] at h
        split_ifs at h
        split at h
        · split_ifs at h
          rw [ih h, List.map_append, List.mem_append, List.map_singleton, List.mem_singleton]
          constructor
          · rintro ((hn | rfl) | ⟨hn, hrest⟩)
            · exact .inl hn
            · exact .inr ⟨hname, .inl rfl⟩
            · exact .inr ⟨hn, .inr hrest⟩
          · rintro (hn | ⟨hn, rfl | hrest⟩)
            · exact .inl (.inl hn)
            · exact .inl (.inr rfl)
            · exact .inr ⟨hn, hrest⟩
        · cases h
      · simp only [hname, not_false_eq_true, if_true] at h
        rw [ih h]
        constructor
        · rintro (hn | ⟨hn, hrest⟩)
          · exact .inl hn
          · exact .inr ⟨hn, .inr hrest⟩
        · rintro (hn | ⟨hn, rfl | hrest⟩)
          · exact .inl hn
          · exact absurd hn hname
          · exact .inr ⟨hn, hrest⟩

/-- A payload was made of the files its observation lists. -/
lemma built_of_buildPayloadFrom {run observation : Json} {payload : Payload}
    {locals : List LocalSource} (h : buildPayloadFrom run observation = some (payload, locals)) :
    ∃ o names, Built payload o names ∧
      ∀ n ∈ sourceNames, n ∈ names.map Prod.fst ↔ HasSource observation n := by
  obtain ⟨view, o, ho, hbuild⟩ := buildPayloadFrom_eq_some h
  obtain ⟨names, hcollect, -, hfacts, hsources⟩ := buildPayload_eq_ok hbuild
  refine ⟨o, names, ⟨collected_collectSources collected_nil hcollect, hfacts, hsources⟩, ?_⟩
  intro n hn
  have hartifacts : artifactsOf observation.normalize = some o.artifacts := by
    simp only [readObservation, Option.bind_eq_bind, Option.bind_eq_some_iff] at ho
    obtain ⟨_, -, artifacts, hread, _, -, _, -, _, -, _, -, _, -, _, -, heq⟩ := ho
    obtain rfl := Option.some.inj heq
    exact hread
  rw [mem_collectSources hcollect, HasSource, hartifacts]
  simp [hn]

/-- The report of the mock advisor is accepted if and only if the observation has the audit and a
file of the custody. -/
theorem mockReport_accepted_iff (t : CharTables) (run observation : Json) (payload : Payload)
    (locals : List LocalSource)
    (h : buildPayloadFrom run observation = some (payload, locals)) :
    (∃ accepted, validateReport (readerScreen t) (mockReport payload) payload = .ok accepted) ↔
      HasSource observation "audit.jsonl" ∧ (HasSource observation "coordinator.sqlite" ∨
        HasSource observation "returned-summary.json") := by
  obtain ⟨o, names, hbuilt, hsource⟩ := built_of_buildPayloadFrom h
  rw [hbuilt.mockReport_iff t, hbuilt.drafts_iff, hsource _ (by decide), hsource _ (by decide),
    hsource _ (by decide)]

/-- An observation with some of the files of a case. -/
def partialObservation (files : List String) : Json :=
  .dict [("integrity", .str "PARTIAL"),
    ("artifacts", .list (files.map fun file => .dict [
      ("path", .str ("execution/cases/permit/" ++ file)),
      ("sha256", .str "0000000000000000000000000000000000000000000000000000000000000000"),
      ("bytes", .int 1)]))]

/-- The artifact of a file of a case. -/
def caseArtifact (file : String) : Artifact :=
  ⟨"execution/cases/permit/" ++ file,
    .str "0000000000000000000000000000000000000000000000000000000000000000", .int 1⟩

/-- `\w` and `\s` on ASCII. -/
def asciiTables : CharTables where
  isWord x := x.isAlphanum || x = '_'
  isSpace x := x.isWhitespace

/-- A payload is built if a source is found in the artifacts. -/
lemma buildPayloadFrom_isSome {observation : Json} {o : Observation} {rows : List Artifact}
    {run integrity : String}
    (hrun : run ∈ ["VERIFIED", "PARTIAL"])
    (hread : readObservation observation.normalize = some o)
    (hintegrity : o.integrity = .str integrity ∧ integrity ∈ ["VERIFIED", "PARTIAL", "UNKNOWN"])
    (hrows : o.artifacts = rows) (hsorted : rows.Pairwise fun a b => (a.path ≤ b.path : Bool))
    (hcollected : (collectSources [] rows).toOption.any (· ≠ []) = true) :
    (buildPayloadFrom (.dict [("integrity", .str run)]) observation).isSome = true := by
  obtain ⟨names, hnames, hne⟩ : ∃ names, collectSources [] rows = .ok names ∧ names ≠ [] := by
    cases hcollect : collectSources [] rows with
    | error e =>
        rw [hcollect] at hcollected
        cases hcollected
    | ok names =>
        rw [hcollect] at hcollected
        exact ⟨names, rfl, of_decide_eq_true hcollected⟩
  have hget : (Json.dict [("integrity", .str run)]).normalize.getStr? "integrity" = some run := rfl
  have hbuild : ∃ result, buildPayload ⟨run, ""⟩ o = .ok result := by
    simp only [buildPayload, hintegrity.1, hintegrity.2, hrun, hrows,
      List.mergeSort_of_pairwise hsorted, hnames, hne, ensure_true, Except.ok_bind, decide_true,
      ne_eq, not_false_eq_true]
    exact ⟨_, rfl⟩
  obtain ⟨result, hresult⟩ := hbuild
  simp only [buildPayloadFrom, hget, hread]
  show (buildPayload ⟨run, ""⟩ o).toOption.isSome = true
  rw [hresult]
  rfl

theorem mockReport_accepted_returned : ∃ payload locals,
    buildPayloadFrom (.dict [("integrity", .str "VERIFIED")])
      (partialObservation ["audit.jsonl", "returned-summary.json"]) = some (payload, locals) ∧
    ∃ accepted, validateReport (readerScreen asciiTables) (mockReport payload) payload =
      .ok accepted := by
  let observation := partialObservation ["audit.jsonl", "returned-summary.json"]
  let artifacts := ["audit.jsonl", "returned-summary.json"].map caseArtifact
  have hartifacts : artifactsOf observation.normalize = some artifacts := by decide
  have hread : readObservation observation.normalize =
      some ⟨.str "PARTIAL", artifacts, [], [], [], [], [], [], []⟩ := by decide
  have hsome : (buildPayloadFrom (.dict [("integrity", .str "VERIFIED")])
      observation).isSome = true :=
    buildPayloadFrom_isSome (by decide) hread ⟨rfl, by decide⟩ rfl (by decide)
      (by decide)
  obtain ⟨⟨payload, locals⟩, h⟩ := Option.isSome_iff_exists.mp hsome
  have hlisted : ∀ name ∈ ["audit.jsonl", "returned-summary.json"],
      ∃ a ∈ artifacts, baseName a.path = name := by decide
  exact ⟨payload, locals, h, (mockReport_accepted_iff asciiTables _ _ _ _ h).mpr
    ⟨⟨artifacts, hartifacts, hlisted _ (by decide)⟩,
      .inr ⟨artifacts, hartifacts, hlisted _ (by decide)⟩⟩⟩

/-- With the audit alone the report is refused, whatever Unicode's tables are. -/
theorem mockReport_refused_audit : ∃ payload locals,
    buildPayloadFrom (.dict [("integrity", .str "VERIFIED")]) (partialObservation ["audit.jsonl"]) =
      some (payload, locals) ∧
    ∀ t accepted, validateReport (readerScreen t) (mockReport payload) payload ≠ .ok accepted := by
  let observation := partialObservation ["audit.jsonl"]
  have hartifacts : artifactsOf observation.normalize = some [caseArtifact "audit.jsonl"] := by
    decide
  have hsome : (buildPayloadFrom (.dict [("integrity", .str "VERIFIED")])
      observation).isSome = true := by decide +kernel
  obtain ⟨⟨payload, locals⟩, h⟩ := Option.isSome_iff_exists.mp hsome
  obtain ⟨o, names, hbuilt, hsource⟩ := built_of_buildPayloadFrom h
  refine ⟨payload, locals, h, fun t accepted haccepted => ?_⟩
  have hneeded := hbuilt.drafts_iff.mp ((hbuilt.mockReport_iff t).mp ⟨accepted, haccepted⟩)
  rw [hsource _ (by decide), hsource _ (by decide), hsource _ (by decide)] at hneeded
  have hnone : ∀ name, HasSource observation name → name = "audit.jsonl" := by
    rintro name ⟨artifacts, hlisted, a, ha, rfl⟩
    obtain rfl := Option.some.inj (hartifacts.symm.trans hlisted)
    rw [List.mem_singleton.mp ha]
    decide
  rcases hneeded.2 with hcustody | hcustody
  · exact absurd (hnone _ hcustody) (by decide)
  · exact absurd (hnone _ hcustody) (by decide)

end CivicGate.Console
