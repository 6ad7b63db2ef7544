import CivicGate.Framework.Exceptions
import CivicGate.Framework.Sha256
import CivicGate.Governance.Execution

/-!
# The synthetic review contract

`evals/write01/contract_v1.py`: the two tools of the write experiment, their query models and
the normal form of a query.  A query that passed its model carries the bounds the model
enforces, so the store and the gateway never meet one out of bounds.
-/

namespace CivicGate.Write01

def datasetSha256 : String := "7aa5521b2cd4010d8a4e66d847eb599c5368cb92b36e1a250e54c66d88c3569d"
def contractVersion : String := "WRITE01_SYNTHETIC_REVIEW_V1"

/-- The tools of `REGISTRY`. -/
inductive Tool
  | write
  | read
  deriving DecidableEq

/-- `WRITE_TOOL` and `READ_TOOL`. -/
def Tool.text : Tool → String
  | .write => "update_synthetic_award_review"
  | .read => "get_synthetic_award_review_v1"

/-- `SCOPES[tool]` -/
def Tool.scope : Tool → String
  | .write => "SYNTHETIC_REVIEW_STATE_WRITE_V1"
  | .read => "SYNTHETIC_REVIEW_STATE_READ_V1"

/-- The registered tool of this name; `none` is a value that is no string. -/
def registered (tool : Option String) : Option Tool :=
  [Tool.write, Tool.read].find? fun t => tool = some t.text

lemma registered_eq_some {tool : Option String} {t : Tool} (h : registered tool = some t) :
    tool = some t.text := by
  simpa using List.find?_some h

/-! ## Texts -/

/-- `digest(value)` -/
def digest (v : Json) : String := sha256Hex (canonical false v)

/-- `_text(value, maximum)` for a string. -/
def isText (value : String) (maximum : ℕ) : Bool :=
  0 < value.length && value.length ≤ maximum && value.toList.all (32 ≤ ·.toNat)

/-- `^SYN-[A-Z0-9-]+$` within 80 characters. -/
def isAwardId (text : String) : Bool :=
  text.length ≤ 80 && "SYN-".toList.isPrefixOf text.toList && 4 < text.length &&
    (text.toList.drop 4).all fun c => c.isUpper || c.isDigit || c = '-'

/-- `^[A-Za-z0-9][A-Za-z0-9_.:-]*$` within 100 characters. -/
def isIdempotencyKey (text : String) : Bool :=
  match text.toList with
  | [] => false
  | c :: rest => text.length ≤ 100 && c.isAlphanum &&
      rest.all fun c => c.isAlphanum || c = '_' || c = '.' || c = ':' || c = '-'

/-- A character of category `Cc`. -/
def isControl (c : Char) : Bool := c.toNat < 32 || (127 ≤ c.toNat && c.toNat < 160)

/-- The length bound of `reviewer_note`, and `bounded_inert_note`. -/
def isReviewerNote (text : String) : Bool :=
  0 < text.length && text.length ≤ 1000 && text.utf8ByteSize ≤ 4000 &&
    !text.toList.any isControl

/-- The length bound of `proposed_status`. -/
def isStatus (text : String) : Bool := 0 < text.length && text.length ≤ 40

/-- `AwardId` -/
abbrev AwardId := { text : String // isAwardId text = true }

/-- `IdempotencyKey` -/
abbrev IdempotencyKey := { text : String // isIdempotencyKey text = true }

/-- A version of an award, as `expected_version` and the state facts bound it. -/
abbrev Version := { n : ℕ // n ≤ 2 ^ 31 - 1 }

/-! ## Queries -/

/-- `ReadQueryV1` -/
structure ReadQueryV1 where
  awardId : AwardId
  deriving DecidableEq

/-- `WriteQueryV1` -/
structure WriteQueryV1 extends ReadQueryV1 where
  expectedVersion : Version
  proposedStatus : { text : String // isStatus text = true }
  reviewerNote : { text : String // isReviewerNote text = true }
  idempotencyKey : IdempotencyKey
  deriving DecidableEq

/-- A query of one of the tools. -/
inductive Query
  | write (q : WriteQueryV1)
  | read (q : ReadQueryV1)
  deriving DecidableEq

/-- The tool a query is for. -/
def Query.tool : Query → Tool
  | .write _ => .write
  | .read _ => .read

/-- The award a query is about. -/
def Query.awardId : Query → AwardId
  | .write q => q.awardId
  | .read q => q.awardId

/-- `query.model_dump(mode="json")` -/
def Query.toJson : Query → Json
  | .write q => .dict [("award_id", .str q.awardId), ("expected_version", .int q.expectedVersion),
      ("idempotency_key", .str q.idempotencyKey), ("proposed_status", .str q.proposedStatus),
      ("reviewer_note", .str q.reviewerNote)]
  | .read q => .dict [("award_id", .str q.awardId)]

/-- `canonical_json(query)` -/
def Query.text (q : Query) : String := canonical false q.toJson

/-- The text as a value of a bounded kind, if it is one. -/
def bounded {α : Type} (p : α → Bool) (x : Option α) : Option { a : α // p a = true } :=
  match x with
  | some a => if h : p a = true then some ⟨a, h⟩ else none
  | none => none

/-- `value[key]` where the model requires an integer between 0 and `2 ** 31 - 1`. -/
def getVersion? (v : Json) (key : String) : Option Version :=
  match v.getNat? key 0 with
  | some n => if h : n ≤ 2 ^ 31 - 1 then some ⟨n, h⟩ else none
  | none => none

/-- `ReadQueryV1.model_validate(value)` -/
def ReadQueryV1.validate (v : Json) : Option ReadQueryV1 := do
  guard (v.hasFields ["award_id"])
  return ⟨← bounded isAwardId (v.getStr? "award_id")⟩

/-- `WriteQueryV1.model_validate(value)` -/
def WriteQueryV1.validate (v : Json) : Option WriteQueryV1 := do
  guard (v.hasFields ["award_id", "expected_version", "proposed_status", "reviewer_note",
    "idempotency_key"])
  let awardId ← bounded isAwardId (v.getStr? "award_id")
  let expectedVersion ← getVersion? v "expected_version"
  let proposedStatus ← bounded isStatus (v.getStr? "proposed_status")
  let reviewerNote ← bounded isReviewerNote (v.getStr? "reviewer_note")
  let idempotencyKey ← bounded isIdempotencyKey (v.getStr? "idempotency_key")
  return { awardId, expectedVersion, proposedStatus, reviewerNote, idempotencyKey }

/-- `REGISTRY[tool].model_validate(value)` -/
def Tool.validate : Tool → Json → Option Query
  | .write, v => (WriteQueryV1.validate v).map .write
  | .read, v => (ReadQueryV1.validate v).map .read

/-- `normalize_query(tool, raw)`.  The document dumped is the one the query model holds, so the
query stands for it. -/
def normalizeQuery (tool : Option String) (raw : Arguments) : Except PyException Query :=
  match raw, registered tool with
  | .notDict, _ => throw .valueError
  | _, none => throw .valueError
  | .unprintable e, some _ => throw e
  | .dict entries, some t =>
    match t.validate (Json.dict entries).normalize with
    | some q => return q
    | none => throw .valueError

/-! ## Lemmas -/

lemma registered_text (t : Tool) : registered (some t.text) = some t := by
  cases t <;> decide

lemma bounded_some {α : Type} {p : α → Bool} (b : { a : α // p a = true }) :
    bounded p (some b.1) = some b := by
  simp only [bounded]
  exact dif_pos b.2

lemma tool_of_validate {t : Tool} {v : Json} {q : Query} (h : t.validate v = some q) :
    q.tool = t := by
  cases t with
  | write =>
      obtain ⟨x, -, rfl⟩ := Option.map_eq_some_iff.mp h
      rfl
  | read =>
      obtain ⟨x, -, rfl⟩ := Option.map_eq_some_iff.mp h
      rfl

/-- A query accepted is one of the tool named. -/
lemma normalizeQuery_eq_ok {tool : Option String} {raw : Arguments} {q : Query}
    (h : normalizeQuery tool raw = .ok q) : tool = some q.tool.text := by
  unfold normalizeQuery at h
  split at h
  · cases h
  · cases h
  · cases h
  · rename_i t ht
    split at h
    · rename_i hq
      obtain rfl := Except.pure_eq_ok.mp h
      rw [tool_of_validate hq]
      exact registered_eq_some ht
    · cases h

lemma Query.normalize_toJson (q : Query) : q.toJson.normalize = q.toJson := by
  cases q with
  | write q =>
      refine Json.normalize_dict ?_ (by simp)
      simp only [List.map_cons, List.map_nil]
      decide
  | read q => exact Json.normalize_dict (by simp) (by simp)

/-- A query model accepts what it dumped. -/
lemma Query.validate_toJson (q : Query) : q.tool.validate q.toJson = some q := by
  cases q with
  | write q =>
      have hversion : (q.expectedVersion : ℕ) ≤ 2147483647 := q.expectedVersion.2
      simp [Query.tool, Query.toJson, Tool.validate, WriteQueryV1.validate, Json.hasFields,
        Json.getStr?, Json.get?, List.lookup_cons, getVersion?, Json.getNat?, bounded_some,
        hversion]
  | read q =>
      simp [Query.tool, Query.toJson, Tool.validate, ReadQueryV1.validate, Json.hasFields,
        Json.getStr?, Json.get?, bounded_some]

/-- The document of a query is one of its raw forms. -/
lemma Query.normalizeQuery_toJson {q : Query} {entries : List (String × Json)}
    (h : q.toJson = .dict entries) : normalizeQuery (some q.tool.text) (.dict entries) = .ok q := by
  have hvalidate : q.tool.validate (Json.dict entries).normalize = some q := by
    rw [← h, q.normalize_toJson, q.validate_toJson]
  simp only [normalizeQuery, registered_text, hvalidate]
  rfl

/-- The text of a query determines it. -/
lemma Query.text_injective : Function.Injective Query.text := by
  intro p q h
  have hjson : p.toJson = q.toJson := by
    rw [← p.normalize_toJson, ← q.normalize_toJson]
    exact canonical_inj.mp h
  cases p with
  | write p =>
      cases q with
      | write q =>
          simp only [Query.toJson, Json.dict.injEq, List.cons.injEq, Prod.mk.injEq,
            Json.str.injEq, Json.int.injEq, true_and, and_true, Nat.cast_inj,
            Subtype.coe_inj] at hjson
          obtain ⟨_, _, _, _, _⟩ := hjson
          obtain ⟨⟨_⟩, _, _, _, _⟩ := p
          obtain ⟨⟨_⟩, _, _, _, _⟩ := q
          simp_all
      | read q => simp [Query.toJson] at hjson
  | read p =>
      cases q with
      | write q => simp [Query.toJson] at hjson
      | read q =>
          obtain ⟨_⟩ := p
          obtain ⟨_⟩ := q
          simp only [Query.toJson, Json.dict.injEq, List.cons.injEq, Prod.mk.injEq,
            Json.str.injEq, true_and, and_true, Subtype.coe_inj] at hjson
          rw [hjson]

lemma Query.withinDigits_toJson (q : Query) : q.toJson.withinDigits = true := by
  have hdigits : 2 ^ 31 - 1 < 10 ^ maxDigits := by
    calc 2 ^ 31 - 1 < 10 ^ 10 := by norm_num
      _ ≤ 10 ^ maxDigits := Nat.pow_le_pow_right (by norm_num) (by rw [maxDigits]; norm_num)
  cases q with
  | write q =>
      have hversion : (q.expectedVersion : ℕ) < 10 ^ maxDigits :=
        q.expectedVersion.2.trans_lt hdigits
      simp [Query.toJson, Json.withinDigits, Json.withinDigitsEntries, hversion]
  | read q => simp [Query.toJson, Json.withinDigits, Json.withinDigitsEntries]

/-- `json.loads` reads the query back from its text. -/
lemma Query.loads_text (q : Query) : loads q.text = some q.toJson := by
  rw [Query.text, loads_canonical (by rw [q.normalize_toJson]; exact q.withinDigits_toJson),
    q.normalize_toJson]

end CivicGate.Write01
