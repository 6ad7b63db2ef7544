import CivicGate.Framework.Exceptions
import CivicGate.Framework.Json.RoundTrip
import CivicGate.Framework.Sha256

/-!
# What the advisor sends and accepts

The pure part of `evidence_console/evidence_advisor_v1.py`: `build_payload` selects the facts
that leave the local evidence view, and `validate_report` accepts a report whose citations
resolve to them.  What the patterns for secrets, markup and paths find in a text is given by
`TextScreen`.

A report accepted cites facts of the payload, and exactly the sources of the facts it cites
(`validateReport_cited`).
-/

namespace CivicGate.Console

/-- `canonical(value)` -/
def canonicalText (v : Json) : String := canonical true v

/-- `digest(value)` -/
def digest (v : Json) : String := sha256Hex (canonicalText v)

/-- `AdvisorError(code, status_code)` -/
structure AdvisorError where
  code : String
  statusCode : ℕ
  deriving DecidableEq

/-! ## The payload -/

/-- A row of `observation["artifacts"]`. -/
structure Artifact where
  path : String
  sha256 : Json
  bytes : Json
  deriving DecidableEq

/-- An observation as the reader projects it: its sections are dictionaries. -/
structure Observation where
  integrity : Json
  artifacts : List Artifact
  policy : List (String × Json)
  judge : List (String × Json)
  binding : List (String × Json)
  backend : List (String × Json)
  result : List (String × Json)
  custody : List (String × Json)
  /-- The entries the payload is not built from. -/
  others : List (String × Json)
  deriving DecidableEq

/-- An artifact as JSON. -/
def Artifact.toJson (a : Artifact) : Json :=
  .dict [("bytes", a.bytes), ("path", .str a.path), ("sha256", a.sha256)]

/-- The observation as JSON. -/
def Observation.toJson (o : Observation) : Json :=
  .dict ([("artifacts", .list (o.artifacts.map Artifact.toJson)), ("backend", .dict o.backend),
    ("binding", .dict o.binding), ("custody", .dict o.custody), ("integrity", o.integrity),
    ("judge", .dict o.judge), ("policy", .dict o.policy), ("result", .dict o.result)] ++ o.others)

/-- What is read of a run. -/
structure RunView where
  integrity : String
  manifestSha256 : String
  deriving DecidableEq

/-- A source cited by its identifier. -/
structure Source where
  id : String
  bytes : ℕ
  sha256 : String
  deriving DecidableEq

/-- A source with its path, which no request holds. -/
structure LocalSource where
  source : Source
  path : String
  deriving DecidableEq

/-- A fact with the sources it rests on. -/
structure Fact where
  id : String
  name : String
  value : Json
  sourceIds : List String
  deriving DecidableEq

/-- The document sent to the provider. -/
structure Payload where
  integrity : String
  facts : List Fact
  sources : List Source
  deriving DecidableEq

/-- `payload["observation_id"]` -/
def Payload.observationId (_ : Payload) : String := "obs-1"

/-- `LIMITATIONS` -/
def limitations : List String :=
  ["SYNTHETIC_ONLY", "NOT_AUTHORITY", "HISTORY_NOT_AUTHENTICATED",
    "CITATIONS_DO_NOT_VERIFY_NARRATIVE", "CLOSED_IS_NOT_HUMAN_ACCEPTANCE",
    "DURABLE_STOP_PARTIAL", "EXTERNAL_EXECUTION_NOT_AUTHORIZED"]

/-- `SOURCE_NAMES` -/
def sourceNames : List String :=
  ["audit.jsonl", "governance-observations.jsonl", "dispatch.jsonl", "http-attempts.jsonl",
    "components.jsonl", "coordinator.sqlite", "returned-summary.json",
    "synthetic-observation-summary.json"]

/-- `STATES` -/
def states : List String := ["VERIFIED", "PARTIAL", "UNKNOWN", "OBSERVED"]

/-- `DECISIONS` -/
def decisions : List String := ["PERMIT", "DENY", "REVIEW_REQUIRED"]

def Source.toJson (s : Source) : Json :=
  .dict [("bytes", .int s.bytes), ("id", .str s.id), ("sha256", .str s.sha256)]

def LocalSource.toJson (s : LocalSource) : Json :=
  .dict [("bytes", .int s.source.bytes), ("id", .str s.source.id), ("path", .str s.path),
    ("sha256", .str s.source.sha256)]

def Fact.toJson (f : Fact) : Json :=
  .dict [("id", .str f.id), ("name", .str f.name), ("source_ids", .list (f.sourceIds.map .str)),
    ("value", f.value)]

def Payload.toJson (p : Payload) : Json :=
  .dict [("facts", .list (p.facts.map Fact.toJson)), ("integrity", .str p.integrity),
    ("limitations", .list (limitations.map .str)), ("observation_id", .str p.observationId),
    ("sources", .list (p.sources.map Source.toJson)), ("version", .int 1)]

/-- `f"{letter}{n:03d}"` -/
def numbered (letter : String) (n : ℕ) : String :=
  letter ++ "".pushn '0' (3 - (toString n).length) ++ toString n

/-- `_enum(value, allowed)` -/
def enumValue (value : Option Json) (allowed : List String) : Json :=
  match value with
  | some (.str s) => if s ∈ allowed then .str s else .null
  | _ => .null

/-- `_bool(value)` -/
def boolValue (value : Option Json) : Json :=
  match value with
  | some (.bool b) => .bool b
  | _ => .null

/-- `_count(value)` -/
def countValue (value : Option Json) : Json :=
  match value with
  | some (.int n) => if 0 ≤ n ∧ n ≤ 1000 then .int n else .null
  | _ => .null

/-- A digest, or nothing. -/
def shaValue (value : Option Json) : Json :=
  match value with
  | some (.str s) => if isSha256Hex s then .str s else .null
  | _ => .null

/-- `value.get(key)` for what may be no dictionary. -/
def getIn (value : Option Json) (key : String) : Option Json :=
  value.bind (·.get? key)

def isWord (extra : List Char) (c : Char) : Bool := c.isAlphanum || c ∈ extra

/-- The components of a path. -/
def components (path : String) : List String := (path.toList.splitOn '/').map String.ofList

/-- `execution/cases/[A-Za-z0-9_-]{1,40}/(?:evidence/)?[A-Za-z0-9_.-]+` -/
def isCasePath (path : String) : Bool :=
  let isCase (s : String) := 1 ≤ s.length && s.length ≤ 40 && s.toList.all (isWord ['_', '-'])
  let isName (s : String) := 1 ≤ s.length && s.toList.all (isWord ['_', '.', '-'])
  match components path with
  | [a, b, c, name] => a = "execution" && b = "cases" && isCase c && isName name
  | [a, b, c, d, name] =>
    a = "execution" && b = "cases" && isCase c && d = "evidence" && isName name
  | _ => false

/-- `path.rsplit("/", 1)[-1]` -/
def baseName (path : String) : String := (components path).getLast?.getD path

/-- The sources of the artifacts, from those so far on. -/
def collectSources : List (String × LocalSource) → List Artifact →
    Except AdvisorError (List (String × LocalSource))
  | found, [] => return found
  | found, a :: rest =>
    let name := baseName a.path
    if name ∉ sourceNames then collectSources found rest
    else if !isCasePath a.path then throw ⟨"ADVISOR_SOURCE_REFERENCE_INVALID", 409⟩
    else match a.sha256, a.bytes with
      | .str sha, .int size =>
        if isSha256Hex sha ∧ 0 ≤ size ∧ name ∉ found.map Prod.fst then
          collectSources
            (found ++ [(name, ⟨⟨numbered "S" (found.length + 1), size.toNat, sha⟩, a.path⟩)]) rest
        else throw ⟨"ADVISOR_SOURCE_REFERENCE_INVALID", 409⟩
      | _, _ => throw ⟨"ADVISOR_SOURCE_REFERENCE_INVALID", 409⟩

/-- The facts in their order: name, value and the sources each rests on. -/
def factRows (o : Observation) (names : List String) : List (String × Json × List String) :=
  let audit := ["audit.jsonl"]
  let governance := ["governance-observations.jsonl"]
  let coordinator := ["coordinator.sqlite"]
  [("evidence.integrity", enumValue (some o.integrity) states, names),
    ("policy.state", enumValue (o.policy.lookup "state") states, audit),
    ("policy.initial_decision", enumValue (o.policy.lookup "initial_decision") decisions, audit),
    ("policy.final_disposition", enumValue (o.policy.lookup "final_disposition") decisions, audit),
    ("judge.state", enumValue (o.judge.lookup "state") states, audit ++ coordinator),
    ("judge.call_observed", boolValue (o.judge.lookup "call_observed"), coordinator),
    ("judge.synthetic", boolValue (o.judge.lookup "synthetic"), audit),
    ("judge.classification",
      enumValue (getIn (o.judge.lookup "signal") "classification")
        ["IN_SCOPE", "OUT_OF_SCOPE", "AMBIGUOUS", "POSSIBLE_AUTHORITY_OVERREACH",
          "CONSEQUENTIAL_INTERPRETATION", "INSUFFICIENT_INFORMATION"], audit),
    ("binding.state", enumValue (o.binding.lookup "state") states, governance),
    ("binding.issued_count", countValue (o.binding.lookup "issued_count"), governance),
    ("binding.consumed_count", countValue (o.binding.lookup "consumed_count"), governance),
    ("binding.pre_dispatch_verification",
      enumValue (o.binding.lookup "pre_dispatch_verification")
        ["PASS", "FAIL", "NOT_REQUIRED", "PENDING_PRE_DISPATCH"], audit),
    ("backend.state", enumValue (o.backend.lookup "state") states,
      ["components.jsonl"] ++ audit),
    ("backend.adapter_entries", countValue (o.backend.lookup "adapter_entries"),
      ["dispatch.jsonl"]),
    ("backend.mock_transport_attempts", countValue (o.backend.lookup "mock_transport_attempts"),
      ["http-attempts.jsonl"]),
    ("backend.dispatch_state",
      enumValue (o.backend.lookup "dispatch_state")
        ["REQUEST_CONFIRMED", "NOT_DISPATCHED", "DISPATCH_ATTEMPTED", "DISPATCH_UNKNOWN"],
      audit ++ ["dispatch.jsonl"]),
    ("backend.response_state",
      enumValue (o.backend.lookup "response_state")
        ["RESPONSE_RECEIVED", "NO_RESPONSE", "TRANSPORT_ERROR"],
      audit ++ ["http-attempts.jsonl"]),
    ("backend.verified_absence", boolValue (o.backend.lookup "verified_absence"),
      ["dispatch.jsonl", "http-attempts.jsonl"]),
    ("result.state", enumValue (o.result.lookup "state") states, audit),
    ("result.verification_state",
      enumValue (o.result.lookup "verification_state")
        ["RESULT_VERIFIED", "UNVERIFIED", "RESULT_UNKNOWN", "FAILED_VALIDATION"], audit),
    ("custody.state", enumValue (o.custody.lookup "state") states, coordinator),
    ("custody.database_state", enumValue (o.custody.lookup "database_state") ["OPEN", "CLOSED"],
      coordinator),
    ("custody.returned_close_ack",
      enumValue (o.custody.lookup "returned_close_ack")
        ["ACKNOWLEDGED", "NOT_ATTEMPTED_UNSAFE_OR_INCOMPLETE"], ["returned-summary.json"]),
    ("custody.restart_preserved", boolValue (o.custody.lookup "restart_preserved"), coordinator),
    ("custody.summary_sha256", shaValue (o.custody.lookup "persisted_summary_sha256"),
      ["synthetic-observation-summary.json"])]

/-- `add(name, value, *source_names)`: a fact without a source has no value. -/
def newFact (names : List (String × LocalSource)) (index : ℕ)
    (row : String × Json × List String) : Fact :=
  let ids := row.2.2.filterMap fun n => (names.lookup n).map (·.source.id)
  { id := numbered "F" (index + 1), name := row.1, sourceIds := ids,
    value := if ids = [] then .null else row.2.1 }

/-- `build_payload(run, observation)` -/
def buildPayload (run : RunView) (o : Observation) :
    Except AdvisorError (Payload × List LocalSource) := do
  ensure (run.integrity ∈ ["VERIFIED", "PARTIAL"]) ⟨"ADVISOR_EVIDENCE_UNAVAILABLE", 409⟩
  match o.integrity with
  | .str integrity =>
    ensure (integrity ∈ ["VERIFIED", "PARTIAL", "UNKNOWN"]) ⟨"ADVISOR_EVIDENCE_UNAVAILABLE", 409⟩
    let names ← collectSources [] (o.artifacts.mergeSort fun a b => a.path ≤ b.path)
    ensure (names ≠ []) ⟨"ADVISOR_EVIDENCE_UNAVAILABLE", 409⟩
    let facts := (factRows o (names.map Prod.fst)).mapIdx (newFact names)
    return ({ integrity, facts, sources := names.map (·.2.source) }, names.map Prod.snd)
  | _ => throw ⟨"ADVISOR_EVIDENCE_UNAVAILABLE", 409⟩

/-! ## The report -/

/-- What the patterns find in a text. -/
structure TextScreen where
  /-- `safe_text(value, limit)` -/
  safeText : String → ℕ → String
  /-- The pattern of markup, links and absolute paths occurs. -/
  risky : String → Bool

/-- `ADVISOR_REPORT_INVALID` -/
def reportInvalid : AdvisorError := ⟨"ADVISOR_REPORT_INVALID", 502⟩

/-- `ADVISOR_CITATION_INVALID` -/
def citationInvalid : AdvisorError := ⟨"ADVISOR_CITATION_INVALID", 502⟩

/-- `_text(value, nullable=…, maximum=…)`; `none` is a missing key, which no caller has. -/
def reportText (screen : TextScreen) (value : Option Json) (nullable : Bool) (maximum : ℕ) :
    Except AdvisorError Unit :=
  match value with
  | some (.str s) => do
    ensure (1 ≤ s.length && s.length ≤ maximum) reportInvalid
    ensure (s.toList.all (32 ≤ ·.toNat) && screen.safeText s maximum = s && !screen.risky s)
      ⟨"ADVISOR_REPORT_UNSAFE", 502⟩
  | some .null => ensure nullable reportInvalid
  | _ => throw reportInvalid

/-- The strings of a list, if it holds only strings. -/
def strings (xs : List Json) : Option (List String) :=
  xs.mapM fun | .str s => some s | _ => none

/-- `A[0-9]{3}` -/
def isFindingId (s : String) : Bool :=
  match s.toList with
  | [a, b, c, d] => a = 'A' && b.isDigit && c.isDigit && d.isDigit
  | _ => false

/-- `fact_map[id]` -/
def Payload.fact? (p : Payload) (id : String) : Option Fact := p.facts.find? (·.id = id)

/-- The sources associated with the facts cited. -/
def Payload.associated (p : Payload) (facts : List String) : List String :=
  facts.flatMap fun f => ((p.fact? f).map Fact.sourceIds).getD []

def categories : List String :=
  ["DECISION_CONSISTENCY", "BINDING_INTEGRITY", "EXECUTION_EVIDENCE", "CUSTODY", "EVIDENCE_GAP",
    "SCOPE_LIMITATION"]

def severities : List String := ["INFO", "LOW", "MEDIUM", "HIGH"]

def kinds : List String := ["OBSERVED_FACT", "MODEL_INFERENCE", "UNKNOWN"]

def findingFields : List String :=
  ["id", "category", "severity", "kind", "observation_id", "fact_ids", "source_ids",
    "explanation", "uncertainty", "investigation"]

/-- The checks of the citations of a finding. -/
def validateCitations (p : Payload) (finding : Json) : Except AdvisorError Unit := do
  ensure (finding.get? "observation_id" = some (.str p.observationId)) citationInvalid
  match (finding.getList? "fact_ids").bind strings, (finding.getList? "source_ids").bind strings with
  | some facts, some refs =>
    ensure (1 ≤ facts.length && facts.length ≤ 25 && 1 ≤ refs.length && refs.length ≤ 8)
      citationInvalid
    ensure (facts.all fun f => (p.fact? f).isSome) citationInvalid
    ensure (refs.all fun s => s ∈ p.sources.map Source.id) citationInvalid
    ensure (facts.Nodup && refs.Nodup) citationInvalid
    ensure (refs.all (· ∈ p.associated facts) && (p.associated facts).all (· ∈ refs))
      citationInvalid
    ensure (finding.getStr? "kind" ≠ some "OBSERVED_FACT" ||
      facts.all fun f => (p.fact? f).map Fact.value ≠ some .null) citationInvalid
  | _, _ => throw citationInvalid

/-- The checks of a finding; its identifier is new. -/
def validateFinding (screen : TextScreen) (p : Payload) (seen : List String) (finding : Json) :
    Except AdvisorError String := do
  ensure (finding.hasFields findingFields) reportInvalid
  match finding.getStr? "id" with
  | none => throw reportInvalid
  | some identity =>
    ensure (isFindingId identity && identity ∉ seen) reportInvalid
    ensure (enumValue (finding.get? "category") categories ≠ .null &&
      enumValue (finding.get? "severity") severities ≠ .null &&
      enumValue (finding.get? "kind") kinds ≠ .null) reportInvalid
    validateCitations p finding
    reportText screen (finding.get? "explanation") false 1500
    reportText screen (finding.get? "uncertainty") false 1500
    reportText screen (finding.get? "investigation") true 1500
    return identity

/-- The loop over the findings. -/
def validateFindings (screen : TextScreen) (p : Payload) :
    List String → List Json → Except AdvisorError Unit
  | _, [] => return ()
  | seen, finding :: rest => do
    let identity ← validateFinding screen p seen finding
    validateFindings screen p (seen ++ [identity]) rest

/-- `validate_report(report, payload)`; the value returned is detached and canonical. -/
def validateReport (screen : TextScreen) (report : Json) (p : Payload) :
    Except AdvisorError Json := do
  let report := report.normalize
  ensure (report.hasFields ["version", "summary", "findings", "limitations"]) reportInvalid
  ensure (report.get? "version" = some (.int 1)) reportInvalid
  reportText screen (report.get? "summary") false 1500
  match report.getList? "limitations", report.getList? "findings" with
  | some limitations, findings =>
    ensure (1 ≤ limitations.length && limitations.length ≤ 10) reportInvalid
    limitations.forM fun value => reportText screen (some value) false 500
    match findings with
    | some findings =>
      ensure (1 ≤ findings.length && findings.length ≤ 12) reportInvalid
      validateFindings screen p [] findings
      return report
    | none => throw reportInvalid
  | none, _ => throw reportInvalid

/-! ## What an accepted report cites -/

/-- The finding cites facts of the payload and exactly their sources, and every fact it calls
observed has a value. -/
structure Cited (p : Payload) (finding : Json) : Prop where
  cites : ∃ facts refs, (finding.getList? "fact_ids").bind strings = some facts ∧
    (finding.getList? "source_ids").bind strings = some refs ∧ facts ≠ [] ∧ facts.Nodup ∧
    (∀ f ∈ facts, ∃ fact ∈ p.facts, fact.id = f) ∧
    (∀ s, s ∈ refs ↔ s ∈ p.associated facts) ∧
    (finding.getStr? "kind" = some "OBSERVED_FACT" →
      ∀ f ∈ facts, (p.fact? f).map Fact.value ≠ some .null)

lemma cited_of_validateCitations {p : Payload} {finding : Json} {u : Unit}
    (h : validateCitations p finding = .ok u) : Cited p finding := by
  simp only [validateCitations, Except.bind_eq_ok, ensure_eq_ok] at h
  obtain ⟨-, -, h⟩ := h
  split at h
  · rename_i facts refs hfacts hrefs
    simp only [Except.bind_eq_ok, ensure_eq_ok, Bool.and_eq_true, Bool.or_eq_true,
      decide_eq_true_eq, List.all_eq_true] at h
    obtain ⟨-, ⟨⟨⟨hlength, -⟩, -⟩, -⟩, -, hknown, -, -, -, ⟨hnodup, -⟩, -, ⟨hsub, hsup⟩,
      hvalues⟩ := h
    refine ⟨facts, refs, hfacts, hrefs, List.ne_nil_of_length_pos hlength, hnodup, ?_, ?_, ?_⟩
    · intro f hf
      obtain ⟨fact, hfact⟩ := Option.isSome_iff_exists.mp (hknown f hf)
      exact ⟨fact, List.mem_of_find?_eq_some hfact, by simpa using List.find?_some hfact⟩
    · exact fun s => ⟨hsub s, hsup s⟩
    · intro hkind f hf
      rcases hvalues with hne | hall
      · exact absurd hkind hne
      · exact hall f hf
  · cases h

lemma cited_of_validateFindings {screen : TextScreen} {p : Payload} {findings : List Json}
    {seen : List String} {u : Unit} (h : validateFindings screen p seen findings = .ok u) :
    ∀ finding ∈ findings, Cited p finding := by
  induction findings generalizing seen with
  | nil => simp
  | cons finding rest ih =>
      simp only [validateFindings, Except.bind_eq_ok] at h
      obtain ⟨identity, hfinding, hrest⟩ := h
      refine List.forall_mem_cons.mpr ⟨?_, ih hrest⟩
      simp only [validateFinding, Except.bind_eq_ok, ensure_eq_ok] at hfinding
      obtain ⟨-, -, hfinding⟩ := hfinding
      split at hfinding
      · cases hfinding
      · simp only [Except.bind_eq_ok, ensure_eq_ok] at hfinding
        obtain ⟨-, -, -, -, _, hcitations, -⟩ := hfinding
        exact cited_of_validateCitations hcitations

/-- Every finding of a report accepted cites as it must. -/
theorem validateReport_cited {screen : TextScreen} {report accepted : Json} {p : Payload}
    (h : validateReport screen report p = .ok accepted) :
    accepted = report.normalize ∧ ∃ findings, accepted.getList? "findings" = some findings ∧
      findings ≠ [] ∧ ∀ finding ∈ findings, Cited p finding := by
  simp only [validateReport, Except.bind_eq_ok, ensure_eq_ok] at h
  obtain ⟨-, -, -, -, -, -, h⟩ := h
  split at h
  · simp only [Except.bind_eq_ok, ensure_eq_ok] at h
    obtain ⟨-, -, -, -, h⟩ := h
    split at h
    · rename_i findings hfindings
      simp only [Except.bind_eq_ok, ensure_eq_ok, Except.pure_eq_ok, Bool.and_eq_true,
        decide_eq_true_eq] at h
      obtain ⟨-, ⟨hlength, -⟩, _, hvalid, rfl⟩ := h
      exact ⟨rfl, findings, hfindings, List.ne_nil_of_length_pos hlength,
        cited_of_validateFindings hvalid⟩
    · cases h
  · cases h

end CivicGate.Console
