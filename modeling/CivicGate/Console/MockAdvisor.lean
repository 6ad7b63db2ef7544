import CivicGate.Console.PayloadText
import CivicGate.Console.SafeText

/-!
# The report of the mock advisor

`MockAdvisor` of `evidence_console/anthropic_advisor_v1.py` builds its report from the payload it
is sent.  Its texts are plain whatever the payload holds (`drafts_sound`), so a finding passes
unless it cites no source (`Built.validateFindings_iff`).
-/

namespace CivicGate.Console

/-- The values that the report repeats. -/
def shownValues : List String :=
  ["PERMIT", "DENY", "REVIEW_REQUIRED", "VERIFIED", "PARTIAL", "OBSERVED", "UNKNOWN", "PASS",
    "FAIL", "NOT_REQUIRED", "PENDING_PRE_DISPATCH", "OPEN", "CLOSED", "ACKNOWLEDGED",
    "NOT_ATTEMPTED_UNSAFE_OR_INCOMPLETE", "REQUEST_CONFIRMED", "NOT_DISPATCHED",
    "DISPATCH_ATTEMPTED", "DISPATCH_UNKNOWN", "RESPONSE_RECEIVED", "NO_RESPONSE",
    "TRANSPORT_ERROR"]

/-- `by_name.get(name)` -/
def Payload.byName (p : Payload) (name : String) : Option Fact :=
  p.facts.reverse.find? (·.name = name)

/-- `value(name)` -/
def Payload.shown (p : Payload) (name : String) : String :=
  match (p.byName name).map Fact.value with
  | some (.int n) => if 0 ≤ n ∧ n ≤ 1000 then toString n else "UNKNOWN"
  | some (.bool b) => if b then "TRUE" else "FALSE"
  | some (.str s) => if s ∈ shownValues then s else "UNKNOWN"
  | _ => "UNKNOWN"

/-- The entries of a finding. -/
def findingEntries (id category kind observationId : String) (factIds sourceIds : List String)
    (explanation uncertainty : String) : List (String × Json) :=
  [("id", .str id), ("category", .str category), ("severity", .str "INFO"), ("kind", .str kind),
    ("observation_id", .str observationId), ("fact_ids", .list (factIds.map .str)),
    ("source_ids", .list (sourceIds.map .str)), ("explanation", .str explanation),
    ("uncertainty", .str uncertainty), ("investigation", .null)]

/-- A finding as JSON. -/
def findingJson (id category kind observationId : String) (factIds sourceIds : List String)
    (explanation uncertainty : String) : Json :=
  .dict (findingEntries id category kind observationId factIds sourceIds explanation uncertainty)

/-- `sorted({s for fact in selected for s in fact["source_ids"]})` -/
def citedSources (selected : List Fact) : List String :=
  (selected.flatMap Fact.sourceIds).dedup.mergeSort fun a b => a ≤ b

/-- The arguments of `finding`. -/
structure Draft where
  category : String
  names : List String
  explanation : String
  uncertainty : String

/-- The kind of a finding: an inference if every fact has a value. -/
def findingKind (p : Payload) (names : List String) (selected : List Fact) : String :=
  if selected.length = names.length && selected.all fun fact => p.shown fact.name ≠ "UNKNOWN"
  then "MODEL_INFERENCE" else "UNKNOWN"

/-- `finding(category, names, explanation, uncertainty)` -/
def addFinding (p : Payload) (findings : List Json) (d : Draft) : List Json :=
  let selected := d.names.filterMap p.byName
  if selected = [] then findings
  else findings ++ [findingJson (numbered "A" (findings.length + 1)) d.category
    (findingKind p d.names selected) p.observationId (selected.map Fact.id) (citedSources selected)
    d.explanation d.uncertainty]

/-- The calls of `finding`. -/
def drafts (p : Payload) : List Draft :=
  [{ category := "DECISION_CONSISTENCY"
     names := ["policy.initial_decision", "policy.final_disposition"]
     explanation := "The selected record reports initial " ++ p.shown "policy.initial_decision" ++
       " and final " ++ p.shown "policy.final_disposition" ++
       ". This synthetic explanation does not authorize a tool."
     uncertainty := "Recorded initial authorization and final disposition are separate facts; missing values remain UNKNOWN." },
   { category := "BINDING_INTEGRITY"
     names := ["binding.issued_count", "binding.consumed_count", "binding.pre_dispatch_verification"]
     explanation := "Recorded bindings issued: " ++ p.shown "binding.issued_count" ++
       "; consumed: " ++ p.shown "binding.consumed_count" ++ "; pre-dispatch verification: " ++
       p.shown "binding.pre_dispatch_verification" ++
       ". Counts describe evidence, not new authority."
     uncertainty := "This mock reading does not independently establish issuance provenance or semantic correctness." },
   { category := "EXECUTION_EVIDENCE"
     names := ["backend.adapter_entries", "backend.mock_transport_attempts",
       "backend.dispatch_state", "backend.response_state"]
     explanation := "Recorded adapter entries: " ++ p.shown "backend.adapter_entries" ++
       "; MockTransport attempts: " ++ p.shown "backend.mock_transport_attempts" ++
       "; dispatch: " ++ p.shown "backend.dispatch_state" ++ "; response: " ++
       p.shown "backend.response_state" ++ ". These observations are distinct."
     uncertainty := "Synthetic transport evidence is not live USAspending compatibility or a network isolation guarantee." },
   { category := "CUSTODY"
     names := ["custody.database_state", "custody.returned_close_ack", "custody.restart_preserved"]
     explanation := "Recorded documentary custody: " ++ p.shown "custody.database_state" ++
       "; returned close ACK: " ++ p.shown "custody.returned_close_ack" ++
       "; restart preservation: " ++ p.shown "custody.restart_preserved" ++
       ". CLOSED is not human acceptance."
     uncertainty := "Durable STOP remains PARTIAL; this report establishes no power-loss or exactly-once guarantee." },
   { category := "SCOPE_LIMITATION"
     names := ["evidence.integrity"]
     explanation := "The selected evidence projection reports " ++ p.shown "evidence.integrity" ++
       " integrity. Hashes identify bytes; they do not authenticate a human or make this advisory report authoritative."
     uncertainty := "Source references can be resolved locally; model interpretations remain unverified and advisory." }]

/-- The findings of the report. -/
def mockFindings (p : Payload) : List Json :=
  let findings := (drafts p).foldl (addFinding p) []
  if findings = [] then
    [findingJson "A001" "SCOPE_LIMITATION" "UNKNOWN" p.observationId [] []
      "No supported facts are available for this synthetic mock report."
      "No evidence conclusion or authority can be inferred."]
  else findings

/-- The report that `respond` answers with. -/
def mockReport (p : Payload) : Json :=
  .dict [("version", .int 1),
    ("summary", .str ("Synthetic advisory fixture: recorded initial " ++
      p.shown "policy.initial_decision" ++ " and final " ++ p.shown "policy.final_disposition" ++
      ". This report grants no authority.")),
    ("findings", .list (mockFindings p)),
    ("limitations", .list [.str "Synthetic provider; no real Anthropic call.",
      .str "CLOSED documentary custody does not mean human acceptance."])]

/-! ## Plain parts -/

/-- No mark of a secret and no word for a credential. -/
def Clean (text : List Char) : Prop :=
  (∀ x ∈ text, isPlainChar x = true) ∧
    ∀ w ∈ secretWords ++ credentialWords, ¬ w.toList <:+: text.map Char.toLower

/-- One of the words is part of the text. -/
def holdsAny (words : List (List ℕ)) : List ℕ → Bool
  | [] => words.any List.isEmpty
  | x :: text => words.any (·.isPrefixOf (x :: text)) || holdsAny words text

lemma holdsAny_of_within {words : List (List ℕ)} {w text : List ℕ} (hw : w ∈ words)
    (h : w <:+: text) : holdsAny words text = true := by
  induction text with
  | nil =>
      obtain rfl := List.eq_nil_of_infix_nil h
      exact List.any_eq_true.mpr ⟨[], hw, rfl⟩
  | cons x text ih =>
      rw [holdsAny, Bool.or_eq_true]
      rcases List.infix_cons_iff.mp h with hstart | hrest
      · exact .inl (List.any_eq_true.mpr ⟨w, hw, List.isPrefixOf_iff_prefix.mpr hstart⟩)
      · exact .inr (ih hrest)

/-- The words as numbers, which are compared faster than characters. -/
def secretCodes : List (List ℕ) :=
  [[45, 45], [98, 101, 97, 114, 101, 114], [115, 107, 45], [103, 104],
    [103, 105, 116, 104, 117, 98, 95, 112, 97, 116, 95], [101, 121, 106], [97, 107, 105, 97],
    [97, 115, 105, 97], [102, 105, 108, 101, 58],
    [106, 97, 118, 97, 115, 99, 114, 105, 112, 116, 58], [100, 97, 116, 97, 58]]

def credentialCodes : List (List ℕ) :=
  [[97, 112, 105], [97, 117, 116, 104, 111, 114, 105, 122, 97, 116, 105, 111, 110],
    [112, 97, 115, 115, 119, 111, 114, 100], [99, 111, 111, 107, 105, 101],
    [116, 111, 107, 101, 110]]

/-- The codes of a text in lower case. -/
def lowerCodes (text : List Char) : List ℕ := text.map fun x => x.toLower.toNat

/-- None of the words is part of the text if none of their codes is. -/
lemma not_infix_of_codes {words : List String} {codes : List (List ℕ)} {text : List Char}
    (hcodes : codes = words.map (·.toList.map Char.toNat))
    (h : holdsAny codes (lowerCodes text) = false) :
    ∀ w ∈ words, ¬ w.toList <:+: text.map Char.toLower := by
  intro w hw hwithin
  have hmem : w.toList.map Char.toNat ∈ codes := by
    rw [hcodes]
    exact List.mem_map_of_mem hw
  have hcoded := hwithin.map Char.toNat
  rw [List.map_map] at hcoded
  exact Bool.noConfusion (h.symm.trans (holdsAny_of_within hmem hcoded))

lemma secretCodes_eq : secretCodes = secretWords.map (·.toList.map Char.toNat) := by decide

lemma credentialCodes_eq : credentialCodes = credentialWords.map (·.toList.map Char.toNat) := by
  decide

/-- A check of `Clean` on numbers. -/
def isClean (text : List Char) : Bool :=
  text.all isPlainChar && !holdsAny secretCodes (lowerCodes text) &&
    !holdsAny credentialCodes (lowerCodes text)

lemma clean_of_isClean {text : List Char} (h : isClean text = true) : Clean text := by
  simp only [isClean, Bool.and_eq_true, List.all_eq_true, Bool.not_eq_true'] at h
  obtain ⟨⟨hchars, hsecret⟩, hcredential⟩ := h
  refine ⟨hchars, fun w hw => ?_⟩
  rcases List.mem_append.mp hw with hw | hw
  · exact not_infix_of_codes secretCodes_eq hsecret w hw
  · exact not_infix_of_codes credentialCodes_eq hcredential w hw

/-- A character that none of the words has. -/
def isSeparator (x : Char) : Bool := x ∈ [' ', ';', '.']

lemma Clean.plain {text : List Char} (h : Clean text) : Plain text where
  chars := h.1
  words w hw := h.2 w (List.mem_append_left _ hw)
  credential := .inl fun w hw => h.2 w (List.mem_append_right _ hw)

lemma prefix_of_notMem {w a b : List Char} {c : Char} (hc : c ∉ w) (h : w <+: a ++ c :: b) :
    w <+: a := by
  induction a generalizing w with
  | nil =>
      cases w with
      | nil => exact List.nil_prefix
      | cons y w =>
          obtain ⟨rfl, -⟩ := List.cons_prefix_cons.mp h
          exact absurd List.mem_cons_self hc
  | cons x a ih =>
      cases w with
      | nil => exact List.nil_prefix
      | cons y w =>
          obtain ⟨rfl, hrest⟩ := List.cons_prefix_cons.mp h
          exact List.cons_prefix_cons.mpr
            ⟨rfl, ih (fun hmem => hc (List.mem_cons_of_mem _ hmem)) hrest⟩

/-- A word lies on one side of a character that it does not have. -/
lemma infix_of_notMem {w a b : List Char} {c : Char} (hc : c ∉ w) (h : w <:+: a ++ c :: b) :
    w <:+: a ∨ w <:+: b := by
  induction a with
  | nil =>
      rcases List.infix_cons_iff.mp h with hprefix | hwithin
      · exact .inl (prefix_of_notMem (a := []) hc hprefix).isInfix
      · exact .inr hwithin
  | cons x a ih =>
      rcases List.infix_cons_iff.mp h with hprefix | hwithin
      · exact .inl (prefix_of_notMem (a := x :: a) hc hprefix).isInfix
      · exact (ih hwithin).imp_left fun ha => ha.trans (List.suffix_cons x a).isInfix

lemma Clean.mono {text part : List Char} (h : Clean text) (hpart : part <:+: text) : Clean part :=
  ⟨fun x hx => h.1 x (hpart.subset hx),
    fun w hw hwithin => h.2 w hw (hwithin.trans (hpart.map Char.toLower))⟩

/-- Clean texts around a separator make a clean text. -/
lemma clean_separated {a b : List Char} {c : Char} (ha : Clean a) (hb : Clean b)
    (hc : isSeparator c = true) : Clean (a ++ c :: b) := by
  have hall : ∀ c ∈ [' ', ';', '.'], isPlainChar c = true ∧ c.toLower = c ∧
      ∀ w ∈ secretWords ++ credentialWords, c ∉ w.toList := by
    simp only [List.forall_mem_cons]
    exact ⟨by decide, by decide, by decide, List.forall_mem_nil _⟩
  obtain ⟨hplain, hlower, hwords⟩ := hall c (of_decide_eq_true hc)
  refine ⟨List.forall_mem_append.mpr ⟨ha.1, List.forall_mem_cons.mpr ⟨hplain, hb.1⟩⟩, ?_⟩
  intro w hw hwithin
  rw [List.map_append, List.map_cons, hlower] at hwithin
  rcases infix_of_notMem (hwords w hw) hwithin with h | h
  · exact ha.2 w hw h
  · exact hb.2 w hw h

/-! ## The texts of the report -/

/-- The values that are no counts. -/
def wordTexts : List String := shownValues ++ ["TRUE", "FALSE"]

/-- What `value` returns is a word or a count. -/
lemma shown_cases (p : Payload) (name : String) :
    p.shown name ∈ wordTexts ∨ ∃ n ≤ 1000, p.shown name = toString (n : ℕ) := by
  have hunknown : "UNKNOWN" ∈ wordTexts := by decide
  unfold Payload.shown
  split
  · rename_i n _
    split_ifs with hn
    · refine .inr ⟨n.toNat, by omega, ?_⟩
      obtain ⟨k, rfl⟩ := Int.eq_ofNat_of_zero_le hn.1
      rfl
    · exact .inl hunknown
  · split_ifs
    · exact .inl (by decide)
    · exact .inl (by decide)
  · split_ifs with hs
    · exact .inl (List.mem_append_left _ hs)
    · exact .inl hunknown
  · exact .inl hunknown

/-- Digits are clean: every word has a character that is none. -/
lemma clean_digits {text : List Char} (h : ∀ x ∈ text, x.isDigit = true) : Clean text := by
  have hdigits : ∀ x : Char, x.isDigit = true → x ∈ "0123456789".toList := by
    have hall : ∀ k < 58, 48 ≤ k → Char.ofNat k ∈ "0123456789".toList := by decide
    intro x hx
    simp only [Char.isDigit, Bool.and_eq_true, decide_eq_true_eq, ge_iff_le,
      UInt32.le_iff_toNat_le] at hx
    have hlow : 48 ≤ x.toNat := hx.1
    have hhigh : x.toNat ≤ 57 := hx.2
    rw [← Char.ofNat_toNat x]
    exact hall _ (by omega) hlow
  have hplain : ∀ x ∈ "0123456789".toList, isPlainChar x = true ∧ x.toLower = x := by
    have hall : ("0123456789".toList.all fun x => isPlainChar x && x.toLower = x) = true := by
      decide
    simpa only [List.all_eq_true, Bool.and_eq_true, decide_eq_true_eq] using hall
  have hwords : ∀ w ∈ secretWords ++ credentialWords,
      ∃ x ∈ w.toList, x ∉ "0123456789".toList := by
    have hall : ((secretWords ++ credentialWords).all fun w =>
        w.toList.any fun x => x ∉ "0123456789".toList) = true := by decide
    simpa only [List.all_eq_true, List.any_eq_true, decide_eq_true_eq] using hall
  refine ⟨fun x hx => (hplain x (hdigits x (h x hx))).1, fun w hw hwithin => ?_⟩
  obtain ⟨x, hx, hnot⟩ := hwords w hw
  obtain ⟨y, hy, rfl⟩ := List.mem_map.mp (hwithin.subset hx)
  have hdigit := hdigits y (h y hy)
  rw [(hplain y hdigit).2] at hnot
  exact hnot hdigit

lemma clean_shown (p : Payload) (name : String) :
    Clean (p.shown name).toList ∧ (p.shown name).length ≤ 34 := by
  have hwords : ∀ v ∈ wordTexts, isClean v.toList = true ∧ v.length ≤ 34 := by decide
  rcases shown_cases p name with h | ⟨n, hn, h⟩
  · exact ⟨clean_of_isClean (hwords _ h).1, (hwords _ h).2⟩
  · rw [h]
    have htext : (toString n).toList = Nat.toDigits 10 n := String.toList_ofList
    constructor
    · rw [htext]
      exact clean_digits (toDigits_allDigits n)
    · rw [← String.length_toList, htext]
      have hlength : (Nat.toDigits 10 n).length ≤ 34 :=
        (Nat.length_toDigits_le_iff (by decide) (by decide)).mpr (by omega)
      exact hlength

/-- A clean text within a bound. -/
structure CleanText (text : String) (length : ℕ) : Prop where
  clean : Clean text.toList
  length_pos : 1 ≤ text.length
  length_le : text.length ≤ length

/-- A clean text that ends at a separator. -/
structure Opened (text : String) (length : ℕ) : Prop extends CleanText text length where
  opened : ∃ before c, text.toList = before ++ [c] ∧ isSeparator c = true

/-- A literal is checked through its characters. -/
lemma of_literal {P : List Char → Prop} {l : List Char} (h : P l) : P (String.ofList l).toList :=
  String.toList_ofList.symm ▸ h

/-- A text that starts with a separator, all within the bound. -/
def StartsOpen (length : ℕ) (text : List Char) : Prop :=
  text.head?.any isSeparator = true ∧ isClean text = true ∧ text.length ≤ length

instance (length : ℕ) (text : List Char) : Decidable (StartsOpen length text) :=
  inferInstanceAs (Decidable (_ ∧ _))

/-- A value between separators. -/
lemma Opened.value {text after : String} {n k : ℕ} (h : Opened text n)
    (hafter : StartsOpen k after.toList) (p : Payload) (name : String) :
    CleanText (text ++ p.shown name ++ after) (n + 34 + k) := by
  obtain ⟨hclean, hlength⟩ := clean_shown p name
  obtain ⟨before, c, htext, hc⟩ := h.opened
  obtain ⟨hhead, hcheck, hlengthAfter⟩ := hafter
  have hcleanAfter := clean_of_isClean hcheck
  constructor
  · rw [String.toList_append, String.toList_append, htext]
    obtain ⟨d, rest, hrest⟩ : ∃ d rest, after.toList = d :: rest := by
      cases hlist : after.toList with
      | nil =>
          rw [hlist] at hhead
          cases hhead
      | cons d rest => exact ⟨d, rest, rfl⟩
    rw [hrest] at hhead hcleanAfter ⊢
    have hbefore : Clean before := by
      have hwhole := h.clean
      rw [htext] at hwhole
      exact hwhole.mono (List.prefix_append before [c]).isInfix
    have htail : Clean rest := hcleanAfter.mono (List.suffix_cons d rest).isInfix
    have hall := clean_separated hbefore (clean_separated hclean htail hhead) hc
    simpa using hall
  · have hfirst := h.length_pos
    simp only [String.length_append]
    omega
  · have hfirst := h.length_le
    rw [String.length_toList] at hlengthAfter
    simp only [String.length_append]
    omega

/-- A text that ends with a separator, all within the bound. -/
def EndsOpen (length : ℕ) (text : List Char) : Prop :=
  text.getLast?.any isSeparator = true ∧ isClean text = true ∧ 1 ≤ text.length ∧
    text.length ≤ length

instance (length : ℕ) (text : List Char) : Decidable (EndsOpen length text) :=
  inferInstanceAs (Decidable (_ ∧ _))

lemma EndsOpen.opened {text : String} {n : ℕ} (h : EndsOpen n text.toList) : Opened text n := by
  obtain ⟨hlast, hclean, hpos, hle⟩ := h
  rw [String.length_toList] at hpos hle
  refine ⟨⟨clean_of_isClean hclean, hpos, hle⟩, ?_⟩
  cases hsome : text.toList.getLast? with
  | none =>
      rw [hsome] at hlast
      cases hlast
  | some c =>
      rw [hsome] at hlast
      obtain ⟨before, hbefore⟩ := List.getLast?_eq_some_iff.mp hsome
      exact ⟨before, c, hbefore, hlast⟩

/-- A value and a text that opens a place for the next one. -/
lemma Opened.next {text after : String} {n k : ℕ} (h : Opened text n)
    (hafter : StartsOpen k after.toList) (hends : EndsOpen k after.toList) (p : Payload)
    (name : String) : Opened (text ++ p.shown name ++ after) (n + 34 + k) := by
  obtain ⟨before, c, hbefore, hc⟩ := hends.opened.opened
  refine ⟨h.value hafter p name, (text ++ p.shown name).toList ++ before, c, ?_, hc⟩
  rw [String.toList_append, hbefore, List.append_assoc]

/-- A text that passes. -/
def Passing (text : String) : Prop := Plain text.toList ∧ 1 ≤ text.length ∧ text.length ≤ 500

lemma CleanText.passing {text : String} {n : ℕ} (h : CleanText text n) (hn : n ≤ 500) :
    Passing text :=
  ⟨h.clean.plain, h.length_pos, h.length_le.trans hn⟩

/-- A text is checked to pass. -/
def PassesCheck (text : List Char) : Prop :=
  (∀ x ∈ text, isPlainChar x = true) ∧ holdsAny secretCodes (lowerCodes text) = false ∧
    (holdsAny credentialCodes (lowerCodes text) = false ∨ ∀ x ∈ text, x ≠ ':' ∧ x ≠ '=') ∧
    1 ≤ text.length ∧ text.length ≤ 500

instance (text : List Char) : Decidable (PassesCheck text) :=
  decidable_of_iff (text.all isPlainChar = true ∧
    holdsAny secretCodes (lowerCodes text) = false ∧
    (holdsAny credentialCodes (lowerCodes text) = false ∨
      (text.all fun x => x ≠ ':' && x ≠ '=') = true) ∧
    1 ≤ text.length ∧ text.length ≤ 500) (by
      simp only [PassesCheck, List.all_eq_true, Bool.and_eq_true, decide_eq_true_eq])

lemma PassesCheck.passing {text : String} (h : PassesCheck text.toList) : Passing text := by
  obtain ⟨hchars, hsecret, hcredential, hlength⟩ := h
  rw [String.length_toList] at hlength
  refine ⟨⟨hchars, not_infix_of_codes secretCodes_eq hsecret, ?_⟩, hlength⟩
  exact hcredential.imp_left fun hnone => not_infix_of_codes credentialCodes_eq hnone

lemma reportText_passing (t : CharTables) {text : String} (h : Passing text) {maximum : ℕ}
    (hmaximum : 500 ≤ maximum) (nullable : Bool) :
    reportText (readerScreen t) (some (.str text)) nullable maximum = .ok () := by
  obtain ⟨hplain, hpos, hlength⟩ := h
  obtain ⟨hsafe, hrisky⟩ := hplain.passes t (hlength.trans hmaximum)
  have hchars : (text.toList.all fun x => 32 ≤ x.toNat) = true := by
    refine List.all_eq_true.mpr fun x hx => ?_
    have hx := hplain.chars x hx
    simp only [isPlainChar, Bool.and_eq_true] at hx
    exact hx.1.1
  have hbounds : (decide (1 ≤ text.length) && decide (text.length ≤ maximum)) = true := by
    simp only [Bool.and_eq_true, decide_eq_true_eq]
    omega
  have hscreen : (readerScreen t).safeText text maximum = text := hsafe
  simp only [reportText, hbounds, hchars, hscreen, hrisky, ensure_true, Except.ok_bind, decide_true,
    Bool.not_false, Bool.and_self]

/-! ## What the findings cite -/

/-- A payload with the sources it was made of. -/
structure Built (p : Payload) (o : Observation) (names : List (String × LocalSource)) : Prop where
  collected : Collected names
  facts : p.facts = (factRows o (names.map Prod.fst)).mapIdx (newFact names)
  sources : p.sources = names.map (·.2.source)

/-- A list of distinct keys finds each of its items. -/
lemma find?_of_mem {α β : Type} [DecidableEq β] {f : α → β} {l : List α} (h : (l.map f).Nodup)
    {a : α} (ha : a ∈ l) : l.find? (f · = f a) = some a := by
  induction l with
  | nil => cases ha
  | cons b l ih =>
      obtain ⟨hb, hrest⟩ := List.nodup_cons.mp h
      rcases List.mem_cons.mp ha with rfl | ha
      · rw [List.find?_cons_of_pos (by simp)]
      · have hne : f b ≠ f a := by
          intro heq
          exact hb (heq ▸ List.mem_map_of_mem ha)
        rw [List.find?_cons_of_neg (by simpa using hne)]
        exact ih hrest ha

section

variable {p : Payload} {o : Observation} {names : List (String × LocalSource)} (h : Built p o names)

include h

lemma Built.names_facts : p.facts.map Fact.name = factNames := by
  rw [h.facts, ← (factRows_filtered o (names.map Prod.fst)).1]
  refine List.ext_getElem (by simp) fun i hi hi' => ?_
  simp [newFact]

lemma Built.ids_facts : p.facts.map Fact.id = (List.range 25).map fun i => numbered "F" (i + 1) := by
  have hlength : (factRows o (names.map Prod.fst)).length = 25 := by
    rw [← List.length_map Prod.fst, (factRows_filtered o (names.map Prod.fst)).1]
    rfl
  rw [h.facts]
  refine List.ext_getElem (by simp [hlength]) fun i hi hi' => ?_
  simp [newFact]

lemma Built.nodup_ids : (p.facts.map Fact.id).Nodup := by
  rw [h.ids_facts]
  decide

lemma Built.byName_eq {fact : Fact} (hfact : fact ∈ p.facts) : p.byName fact.name = some fact := by
  have hnodup : (p.facts.reverse.map Fact.name).Nodup := by
    rw [List.map_reverse, List.nodup_reverse, h.names_facts]
    decide
  exact find?_of_mem hnodup (List.mem_reverse.mpr hfact)

lemma Built.fact?_eq {fact : Fact} (hfact : fact ∈ p.facts) : p.fact? fact.id = some fact :=
  find?_of_mem h.nodup_ids hfact

/-- The facts of some names. -/
lemma Built.exists_facts {ns : List String} (hns : ∀ n ∈ ns, n ∈ factNames) :
    ∃ selected, ns.filterMap p.byName = selected ∧ selected.map Fact.name = ns ∧
      ∀ fact ∈ selected, fact ∈ p.facts := by
  induction ns with
  | nil => exact ⟨[], rfl, rfl, nofun⟩
  | cons n ns ih =>
      obtain ⟨hn, hrest⟩ := List.forall_mem_cons.mp hns
      obtain ⟨selected, hselected, hnames, hmem⟩ := ih hrest
      rw [← h.names_facts] at hn
      obtain ⟨fact, hfact, rfl⟩ := List.mem_map.mp hn
      refine ⟨fact :: selected, ?_, ?_, List.forall_mem_cons.mpr ⟨hfact, hmem⟩⟩
      · rw [List.filterMap_cons_some (h.byName_eq hfact), hselected]
      · rw [List.map_cons, hnames]

/-- The sources associated with selected facts are those of the facts. -/
lemma Built.associated_eq {selected : List Fact} (hselected : ∀ fact ∈ selected, fact ∈ p.facts) :
    p.associated (selected.map Fact.id) = selected.flatMap Fact.sourceIds := by
  rw [Payload.associated, List.flatMap_map]
  refine List.flatMap_congr fun fact hfact => ?_
  rw [h.fact?_eq (hselected fact hfact)]
  rfl

/-- A fact cites sources of the payload. -/
lemma Built.sourceIds_mem {fact : Fact} (hfact : fact ∈ p.facts) :
    ∀ id ∈ fact.sourceIds, id ∈ p.sources.map Source.id := by
  rw [h.facts] at hfact
  obtain ⟨i, hi, rfl⟩ := List.mem_mapIdx.mp hfact
  intro id hid
  obtain ⟨name, -, hname⟩ := List.mem_filterMap.mp hid
  obtain ⟨source, hsource, rfl⟩ := Option.map_eq_some_iff.mp hname
  obtain ⟨before, after, hsplit, -⟩ := List.lookup_eq_some_iff.mp hsource
  rw [h.sources, hsplit]
  simp

lemma Built.length_sources : p.sources.length ≤ 8 := by
  have hsub : names.map Prod.fst ⊆ sourceNames := fun n hn => by
    obtain ⟨e, he, rfl⟩ := List.mem_map.mp hn
    exact h.collected.names e he
  have hlength := (h.collected.nodup.subperm hsub).length_le
  rw [h.sources, List.length_map]
  rw [List.length_map] at hlength
  exact hlength

end

/-! ## The checks of a finding -/

lemma strings_map_str (xs : List String) : strings (xs.map .str) = some xs := by
  unfold strings
  induction xs with
  | nil => rfl
  | cons x xs ih => rw [List.map_cons, List.mapM_cons, ih]; rfl

section

variable (id category kind observationId : String) (factIds sourceIds : List String)
  (explanation uncertainty : String)

/-- A finding once normalized. -/
def finding : Json :=
  (findingJson id category kind observationId factIds sourceIds explanation uncertainty).normalize

lemma finding_fields :
    let f := finding id category kind observationId factIds sourceIds explanation uncertainty
    f.hasFields findingFields = true ∧ f.getStr? "id" = some id ∧
      f.get? "category" = some (.str category) ∧ f.get? "severity" = some (.str "INFO") ∧
      f.get? "kind" = some (.str kind) ∧ f.get? "observation_id" = some (.str observationId) ∧
      f.getList? "fact_ids" = some (factIds.map .str) ∧
      f.getList? "source_ids" = some (sourceIds.map .str) ∧
      f.get? "explanation" = some (.str explanation) ∧
      f.get? "uncertainty" = some (.str uncertainty) ∧ f.get? "investigation" = some .null := by
  intro f
  have hnodup : findingFields.Nodup := by decide
  have hget : ∀ k, f.get? k = ((findingEntries id category kind observationId factIds sourceIds
      explanation uncertainty).lookup k).map Json.normalize :=
    @Json.get?_normalize (findingEntries id category kind observationId factIds sourceIds
      explanation uncertainty) hnodup
  refine ⟨Json.hasFields_normalize hnodup (List.Perm.refl _), ?_⟩
  simp [Json.getStr?, Json.getList?, hget, findingEntries, List.lookup_cons]

end

lemma mem_citedSources {selected : List Fact} {id : String} :
    id ∈ citedSources selected ↔ id ∈ selected.flatMap Fact.sourceIds := by
  rw [citedSources, List.mem_mergeSort, List.mem_dedup]

lemma nodup_citedSources (selected : List Fact) : (citedSources selected).Nodup :=
  (List.mergeSort_perm _ _).nodup_iff.mpr (List.nodup_dedup _)

section

variable {p : Payload} {o : Observation} {names : List (String × LocalSource)} {selected : List Fact}

/-- The citations of a finding are accepted if it cites a source at all. -/
lemma Built.validateCitations_eq (h : Built p o names)
    (hselected : ∀ fact ∈ selected, fact ∈ p.facts) (hnodup : (selected.map Fact.name).Nodup)
    (hne : selected ≠ []) {id category kind explanation uncertainty : String}
    (hkind : kind ≠ "OBSERVED_FACT") :
    validateCitations p (finding id category kind p.observationId (selected.map Fact.id)
      (citedSources selected) explanation uncertainty) =
        if selected.flatMap Fact.sourceIds = [] then .error citationInvalid else .ok () := by
  obtain ⟨-, -, -, -, hkindField, hobservation, hfacts, hrefs, -⟩ := finding_fields id category kind
    p.observationId (selected.map Fact.id) (citedSources selected) explanation uncertainty
  have hmem := @mem_citedSources selected
  have hfactsNodup : selected.Nodup := List.Nodup.of_map _ hnodup
  have hids : (selected.map Fact.id).Nodup := by
    refine (List.nodup_map_iff_inj_on hfactsNodup).mpr fun a ha b hb heq => ?_
    have hboth := (h.fact?_eq (hselected a ha)).symm.trans
      ((congrArg p.fact? heq).trans (h.fact?_eq (hselected b hb)))
    exact Option.some.inj hboth
  have hlength : selected.length ≤ 25 := by
    have hsub := (hfactsNodup.subperm hselected).length_le
    have htotal : p.facts.length = 25 := by
      rw [← List.length_map Fact.name, h.names_facts]
      rfl
    omega
  have hpos : 1 ≤ selected.length := List.length_pos_of_ne_nil hne
  have hknown : ((selected.map Fact.id).all fun f => (p.fact? f).isSome) = true := by
    refine List.all_eq_true.mpr fun id hid => ?_
    obtain ⟨fact, hfact, rfl⟩ := List.mem_map.mp hid
    rw [h.fact?_eq (hselected fact hfact)]
    rfl
  have hsources : ∀ id ∈ citedSources selected, id ∈ p.sources.map Source.id := by
    intro id hid
    obtain ⟨fact, hfact, hmem⟩ := List.mem_flatMap.mp (hmem.mp hid)
    exact h.sourceIds_mem (hselected fact hfact) id hmem
  have hrefsLength : (citedSources selected).length ≤ 8 := by
    have hsub := ((nodup_citedSources selected).subperm hsources).length_le
    rw [List.length_map] at hsub
    exact hsub.trans h.length_sources
  have hassociated := h.associated_eq hselected
  have hstr : (finding id category kind p.observationId (selected.map Fact.id)
      (citedSources selected) explanation uncertainty).getStr? "kind" ≠ some "OBSERVED_FACT" := by
    rw [Json.getStr?, hkindField]
    simpa using hkind
  rw [validateCitations, hobservation, hfacts, hrefs, Option.bind_some, Option.bind_some,
    strings_map_str, strings_map_str]
  simp only [decide_true, ensure_true, Except.ok_bind]
  by_cases hempty : selected.flatMap Fact.sourceIds = []
  · rw [if_pos hempty]
    have hnil : citedSources selected = [] := by
      refine List.eq_nil_iff_forall_not_mem.mpr fun id hid => ?_
      have hcited := hmem.mp hid
      rw [hempty] at hcited
      cases hcited
    rw [hnil]
    simp [ensure]
  · rw [if_neg hempty]
    have hrefsPos : 1 ≤ (citedSources selected).length := by
      obtain ⟨id, hid⟩ := List.exists_mem_of_ne_nil _ hempty
      exact List.length_pos_of_mem (hmem.mpr hid)
    have hbounds : (decide (1 ≤ (selected.map Fact.id).length) &&
        decide ((selected.map Fact.id).length ≤ 25) &&
        decide (1 ≤ (citedSources selected).length) &&
        decide ((citedSources selected).length ≤ 8)) = true := by
      simp only [List.length_map, Bool.and_eq_true, decide_eq_true_eq]
      exact ⟨⟨⟨hpos, hlength⟩, hrefsPos⟩, hrefsLength⟩
    have hsourcesAll : ((citedSources selected).all fun s => s ∈ p.sources.map Source.id) = true :=
      List.all_eq_true.mpr fun s hs => decide_eq_true (hsources s hs)
    have hboth : (((citedSources selected).all fun s => s ∈ p.associated (selected.map Fact.id)) &&
        (p.associated (selected.map Fact.id)).all fun s => s ∈ citedSources selected) = true := by
      rw [hassociated, Bool.and_eq_true]
      exact ⟨List.all_eq_true.mpr fun s hs => decide_eq_true (hmem.mp hs),
        List.all_eq_true.mpr fun s hs => decide_eq_true (hmem.mpr hs)⟩
    simp only [hbounds, hknown, hsourcesAll, hids, nodup_citedSources selected, hboth, hstr, ensure_true,
      Except.ok_bind, decide_true, Bool.and_self, ne_eq, not_false_eq_true, Bool.true_or]

/-- A finding passes if it cites a source at all. -/
lemma Built.validateFinding_eq (h : Built p o names) (t : CharTables)
    (hselected : ∀ fact ∈ selected, fact ∈ p.facts) (hnodup : (selected.map Fact.name).Nodup)
    (hne : selected ≠ []) {seen : List String} {id category kind explanation uncertainty : String}
    (hid : isFindingId id = true ∧ id ∉ seen) (hcategory : category ∈ categories)
    (hkind : kind ∈ ["MODEL_INFERENCE", "UNKNOWN"]) (hexplanation : Passing explanation)
    (huncertainty : Passing uncertainty) :
    validateFinding (readerScreen t) p seen (finding id category kind p.observationId
      (selected.map Fact.id) (citedSources selected) explanation uncertainty) =
        if selected.flatMap Fact.sourceIds = [] then .error citationInvalid else .ok id := by
  have hobserved : kind ≠ "OBSERVED_FACT" := by
    rintro rfl
    revert hkind
    decide
  have hcitations := @Built.validateCitations_eq p o names selected h hselected hnodup hne id category
    kind explanation uncertainty hobserved
  obtain ⟨hfields, hidField, hcategoryField, hseverity, hkindField, -, -, -, hexplanationField,
    huncertaintyField, hinvestigation⟩ := finding_fields id category kind p.observationId
      (selected.map Fact.id) (citedSources selected) explanation uncertainty
  have hnew : (isFindingId id && decide (id ∉ seen)) = true := by
    rw [Bool.and_eq_true, decide_eq_true_eq]
    exact hid
  have henum : ∀ {s : String} {allowed : List String}, s ∈ allowed →
      enumValue (some (.str s)) allowed ≠ .null := by
    intro s allowed hs
    rw [enumValue, if_pos hs]
    exact fun hnull => nomatch hnull
  have hkinds : kind ∈ kinds := by
    rcases List.mem_pair.mp hkind with rfl | rfl <;> decide
  have henums : (decide (enumValue (some (.str category)) categories ≠ .null) &&
      decide (enumValue (some (.str "INFO")) severities ≠ .null) &&
      decide (enumValue (some (.str kind)) kinds ≠ .null)) = true := by
    simp only [Bool.and_eq_true, decide_eq_true_eq]
    exact ⟨⟨henum hcategory, henum (by decide)⟩, henum hkinds⟩
  rw [validateFinding, hfields, hidField]
  simp only [hcategoryField, hseverity, hkindField, hexplanationField, huncertaintyField,
    hinvestigation, hnew, henums, hcitations, ensure_true, Except.ok_bind]
  split_ifs
  · rfl
  · rw [Except.ok_bind, reportText_passing t hexplanation (by decide), Except.ok_bind,
      reportText_passing t huncertainty (by decide), Except.ok_bind]
    rfl

end

/-! ## The report -/

section

variable {p : Payload} {o : Observation} {names : List (String × LocalSource)}

/-- A call of `finding` whose finding passes if it cites a source. -/
structure Draft.Sound (d : Draft) : Prop where
  category : d.category ∈ categories
  nonempty : d.names ≠ []
  known : ∀ n ∈ d.names, n ∈ factNames
  nodup : d.names.Nodup
  explanation : Passing d.explanation
  uncertainty : Passing d.uncertainty

/-- The sources of the facts that a draft names. -/
def Draft.sourceIds (p : Payload) (d : Draft) : List String :=
  (d.names.filterMap p.byName).flatMap Fact.sourceIds

/-- The identifiers of the first findings. -/
def findingIds (k : ℕ) : List String := (List.range k).map fun i => numbered "A" (i + 1)

/-- The finding of a sound draft is the next one. -/
lemma Built.addFinding_eq (h : Built p o names) {d : Draft} (hd : d.Sound) (findings : List Json) :
    ∃ selected kind, selected ≠ [] ∧ (∀ fact ∈ selected, fact ∈ p.facts) ∧
      (selected.map Fact.name).Nodup ∧ selected.flatMap Fact.sourceIds = d.sourceIds p ∧
      kind ∈ ["MODEL_INFERENCE", "UNKNOWN"] ∧ addFinding p findings d =
        findings ++ [findingJson (numbered "A" (findings.length + 1)) d.category kind
          p.observationId (selected.map Fact.id) (citedSources selected) d.explanation
          d.uncertainty] := by
  obtain ⟨selected, hselected, hnames, hmem⟩ := h.exists_facts hd.known
  have hne : selected ≠ [] := by
    rintro rfl
    exact hd.nonempty hnames.symm
  refine ⟨selected, findingKind p d.names selected, hne, hmem, hnames ▸ hd.nodup,
    by rw [Draft.sourceIds, hselected], ?_, ?_⟩
  · unfold findingKind
    split_ifs
    · exact List.mem_cons_self
    · exact List.mem_cons_of_mem _ List.mem_cons_self
  · rw [addFinding, hselected]
    exact if_neg hne

/-- The findings of sound drafts pass if each cites a source. -/
lemma Built.validateFindings_iff (h : Built p o names) (t : CharTables) :
    ∀ (ds : List Draft) (findings : List Json), (∀ d ∈ ds, d.Sound) →
      findings.length + ds.length ≤ 5 → ∃ more, ds.foldl (addFinding p) findings = findings ++ more ∧
        more.length = ds.length ∧
        (validateFindings (readerScreen t) p (findingIds findings.length)
          (more.map Json.normalize) = .ok () ↔ ∀ d ∈ ds, d.sourceIds p ≠ [])
  | [], findings, _, _ => ⟨[], (List.append_nil _).symm, rfl, iff_of_true rfl (List.forall_mem_nil _)⟩
  | d :: ds, findings, hds, hlength => by
      obtain ⟨hd, hrest⟩ := List.forall_mem_cons.mp hds
      obtain ⟨selected, kind, hne, hselected, hnodup, hsources, hkind, hadd⟩ :=
        h.addFinding_eq hd findings
      rw [List.length_cons] at hlength
      have hnext : (addFinding p findings d).length = findings.length + 1 := by
        rw [hadd, List.length_append, List.length_singleton]
      obtain ⟨more, hfold, hmore, hiff⟩ :=
        h.validateFindings_iff t ds (addFinding p findings d) hrest (by omega)
      rw [hadd, List.append_assoc, List.singleton_append] at hfold
      refine ⟨_, by rw [List.foldl_cons, hadd]; exact hfold, by simp [hmore], ?_⟩
      have hids : ∀ k < 5, isFindingId (numbered "A" (k + 1)) = true ∧
          numbered "A" (k + 1) ∉ findingIds k := by decide
      have hchecked := h.validateFinding_eq t hselected hnodup hne
        (hids findings.length (by omega)) hd.category hkind hd.explanation hd.uncertainty
      have hseen : findingIds findings.length ++ [numbered "A" (findings.length + 1)] =
          findingIds (addFinding p findings d).length := by
        rw [hnext, findingIds, findingIds, List.range_succ, List.map_append]
        rfl
      rw [List.map_cons, validateFindings, List.forall_mem_cons, ← hiff, ← hseen]
      have hfirst := hchecked
      rw [hsources] at hfirst
      rw [← finding, hfirst]
      split_ifs with hempty
      · exact iff_of_false (fun hok => by cases hok) fun hboth => hboth.1 hempty
      · rw [Except.ok_bind, and_iff_right hempty]

/-- The checks on a draft that do not look at its texts. -/
def draftCheck (category : String) (names : List String) : Bool :=
  category ∈ categories && names ≠ [] && names.all (· ∈ factNames) && decide names.Nodup

lemma sound_of_draftCheck {category explanation uncertainty : String} {names : List String}
    (h : draftCheck category names = true) (hexplanation : Passing explanation)
    (huncertainty : Passing uncertainty) :
    Draft.Sound ⟨category, names, explanation, uncertainty⟩ := by
  simp only [draftCheck, Bool.and_eq_true, decide_eq_true_eq, List.all_eq_true] at h
  exact ⟨h.1.1.1, h.1.1.2, h.1.2, h.2, hexplanation, huncertainty⟩

lemma drafts_sound (p : Payload) : ∀ d ∈ drafts p, d.Sound := by
  simp only [drafts, List.forall_mem_cons]
  refine ⟨
    sound_of_draftCheck (by decide) ?_ (of_literal (P := PassesCheck) (by decide)).passing,
    sound_of_draftCheck (by decide) ?_ (of_literal (P := PassesCheck) (by decide)).passing,
    sound_of_draftCheck (by decide) ?_ (of_literal (P := PassesCheck) (by decide)).passing,
    sound_of_draftCheck (by decide) ?_ (of_literal (P := PassesCheck) (by decide)).passing,
    sound_of_draftCheck (by decide) ?_ (of_literal (P := PassesCheck) (by decide)).passing,
    nofun⟩
  · have hfirst : EndsOpen 60 "The selected record reports initial ".toList :=
      of_literal (by decide)
    have hsecond := @Opened.next _ " and final " 60 60 hfirst.opened (of_literal (by decide))
      (of_literal (by decide)) p "policy.initial_decision"
    exact (@Opened.value _ ". This synthetic explanation does not authorize a tool." _ 60 hsecond
      (of_literal (by decide)) p "policy.final_disposition").passing (by decide)
  · have hfirst : EndsOpen 60 "Recorded bindings issued: ".toList := of_literal (by decide)
    have hsecond := @Opened.next _ "; consumed: " 60 60 hfirst.opened (of_literal (by decide))
      (of_literal (by decide)) p "binding.issued_count"
    have hthird := @Opened.next _ "; pre-dispatch verification: " _ 60 hsecond
      (of_literal (by decide)) (of_literal (by decide)) p "binding.consumed_count"
    exact (@Opened.value _ ". Counts describe evidence, not new authority." _ 60 hthird
      (of_literal (by decide)) p "binding.pre_dispatch_verification").passing (by decide)
  · have hfirst : EndsOpen 60 "Recorded adapter entries: ".toList := of_literal (by decide)
    have hsecond := @Opened.next _ "; MockTransport attempts: " 60 60 hfirst.opened
      (of_literal (by decide)) (of_literal (by decide)) p "backend.adapter_entries"
    have hthird := @Opened.next _ "; dispatch: " _ 60 hsecond (of_literal (by decide))
      (of_literal (by decide)) p "backend.mock_transport_attempts"
    have hfourth := @Opened.next _ "; response: " _ 60 hthird (of_literal (by decide))
      (of_literal (by decide)) p "backend.dispatch_state"
    exact (@Opened.value _ ". These observations are distinct." _ 60 hfourth
      (of_literal (by decide)) p "backend.response_state").passing (by decide)
  · have hfirst : EndsOpen 60 "Recorded documentary custody: ".toList :=
      of_literal (by decide)
    have hsecond := @Opened.next _ "; returned close ACK: " 60 60 hfirst.opened
      (of_literal (by decide)) (of_literal (by decide)) p "custody.database_state"
    have hthird := @Opened.next _ "; restart preservation: " _ 60 hsecond
      (of_literal (by decide)) (of_literal (by decide)) p "custody.returned_close_ack"
    exact (@Opened.value _ ". CLOSED is not human acceptance." _ 60 hthird
      (of_literal (by decide)) p "custody.restart_preserved").passing (by decide)
  · have hfirst : EndsOpen 60 "The selected evidence projection reports ".toList :=
      of_literal (by decide)
    exact (@Opened.value _ " integrity. Hashes identify bytes; they do not authenticate a human or make this advisory report authoritative."
      60 130 hfirst.opened (of_literal (by decide)) p "evidence.integrity").passing (by decide)

end

end CivicGate.Console
