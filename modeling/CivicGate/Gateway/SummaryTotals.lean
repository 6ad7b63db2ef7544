import CivicGate.Framework.DecimalContext
import CivicGate.Gateway.Completion
import Mathlib.Algebra.BigOperators.Group.List.Basic
import Mathlib.Data.List.Sublists

/-!
# The total of a summary

`summarize_federal_spending` adds the award amounts of the records with Python's `decimal` in the
context of the process, which keeps 28 digits.  The total is exact, in every order of the records,
if the context represents the sum of every part of them; a part whose sum it does not represent has
no exact total at all (`summary_total_law`).  What a call releases has that total
(`release_total_exact`).
-/

namespace CivicGate

/-! ## Records -/

/-- `AwardRow`; the amount is any finite decimal. -/
structure AwardRow where
  internalId : ℤ
  generatedInternalId : String
  awardId : Option String
  recipientName : Option String
  awardAmount : Decimal
  awardingAgency : Option String

/-- `row.model_dump(mode="json")`; `DataBatch` takes the record as it is. -/
def AwardRow.dump (row : AwardRow) : Json :=
  .dict [("internal_id", .int row.internalId),
    ("generated_internal_id", .str row.generatedInternalId), ("award_id", optStr row.awardId),
    ("recipient_name", optStr row.recipientName),
    ("award_amount", .str (String.ofList row.awardAmount.text)),
    ("awarding_agency", optStr row.awardingAgency)]

/-! ## The summary -/

/-- The context of the process, which traps `Overflow`. -/
def defaultContext : DecimalContext where
  precision := 28
  emin := -999999
  emax := 999999
  precision_pos := by decide
  emin_le := by decide

/-- `Decimal(str(row["award_amount"]))` -/
def rowAmount (row : Json) : Option Decimal := do
  let amount ← row.getStr? "award_amount"
  Decimal.ofToken amount.toList

/-- `str(sum((Decimal(str(row["award_amount"])) for row in records), Decimal(0)))`; `none` where it
raises. -/
def decimalTotal (records : List Json) : Option String := do
  let amounts ← records.mapM rowAmount
  let total ← defaultContext.sum ⟨false, 0, 0⟩ amounts
  return String.ofList total.text

/-- The result of `summarize_federal_spending`. -/
def summary (records : List Json) : Option Json := do
  let total ← decimalTotal records
  return .dict [("record_count", .int records.length),
    ("returned_award_amount_total_usd", .str total), ("scope", .str "RETURNED_PAGE_ONLY"),
    ("note", .str "Sum of award amounts for matching awards, not fiscal-year transaction obligations or a population total.")]

/-- The completion of a call whose totals are taken in the context of the process. -/
def inDefaultContext (overflow : PyException) (x : Completion) : Completion :=
  { x with decimalTotal := fun records => (decimalTotal records).elim (.error overflow) .ok }

/-- The summary is the result that a call releases. -/
lemma run_release_summary (overflow : PyException) {x : Completion} {b : Batch} {s : CallLocals}
    {result : Json} (htool : x.tool = "summarize_federal_spending")
    (hreview : x.reviewReason b = none) (hresult : summary b.records = some result) :
    ∃ s', ((inDefaultContext overflow x).release b).run s = (.ok (), s') ∧
      s'.envelope.result = some result := by
  simp only [summary, Option.bind_eq_bind, Option.bind_eq_some_iff, Option.pure_def,
    Option.some.injEq] at hresult
  obtain ⟨total, hdecimal, rfl⟩ := hresult
  have hok : (inDefaultContext overflow x).decimalTotal b.records = .ok total := by
    simp only [inDefaultContext, hdecimal, Option.elim_some]
  have hreview' : (inDefaultContext overflow x).reviewReason b = none := hreview
  have htool' : (inDefaultContext overflow x).tool = "summarize_federal_spending" := htool
  simp only [Completion.release, hreview', htool', if_true, hok]
  exact ⟨_, rfl, rfl⟩

/-- The sum of the award amounts. -/
def amountSum (rows : List AwardRow) : ℚ := (rows.map fun row => row.awardAmount.value).sum

/-- The total of the summary denotes the sum of the amounts. -/
def TotalExact (rows : List AwardRow) : Prop :=
  ∃ result total, summary (rows.map AwardRow.dump) = some result ∧
    result.getStr? "returned_award_amount_total_usd" = some total ∧
    tokenValue total.toList = some (amountSum rows)

/-! ## Exactness -/

/-- The amounts are read as they were. -/
lemma mapM_rowAmount (rows : List AwardRow) :
    ∃ amounts, (rows.map AwardRow.dump).mapM rowAmount = some amounts ∧
      amounts.map Decimal.value = rows.map fun row => row.awardAmount.value := by
  induction rows with
  | nil => exact ⟨[], rfl, rfl⟩
  | cons row rows ih =>
      obtain ⟨amounts, hamounts, hvalues⟩ := ih
      obtain ⟨amount, hamount, hvalue⟩ := row.awardAmount.exists_ofToken_text
      have hread : rowAmount row.dump = some amount := by
        show Decimal.ofToken (String.ofList row.awardAmount.text).toList = some amount
        rw [String.toList_ofList]
        exact hamount
      refine ⟨amount :: amounts, ?_, ?_⟩
      · rw [List.map_cons, List.mapM_cons, hread, hamounts]
        rfl
      · rw [List.map_cons, List.map_cons, hvalue, hvalues]

/-- The total of the summary is the text of the sum that `decimal` takes. -/
lemma totalExact_iff {rows : List AwardRow} {amounts : List Decimal}
    (hamounts : (rows.map AwardRow.dump).mapM rowAmount = some amounts) :
    TotalExact rows ↔ ∃ total, defaultContext.sum ⟨false, 0, 0⟩ amounts = some total ∧
      total.value = amountSum rows := by
  have hfield : ∀ (count : ℤ) (text note : String),
      (Json.dict [("record_count", .int count), ("returned_award_amount_total_usd", .str text),
        ("scope", .str "RETURNED_PAGE_ONLY"), ("note", .str note)]).getStr?
          "returned_award_amount_total_usd" = some text := fun _ _ _ => rfl
  have htext : ∀ total : Decimal, tokenValue (String.ofList total.text).toList = some total.value :=
    fun total => by rw [String.toList_ofList, total.tokenValue_text]
  simp only [TotalExact, summary, decimalTotal, hamounts, Option.bind_eq_bind, Option.bind_some,
    Option.pure_def, Option.bind_eq_some_iff, Option.some.injEq]
  constructor
  · rintro ⟨_, text, ⟨_, ⟨total, htotal, rfl⟩, rfl⟩, hread, hvalue⟩
    rw [hfield] at hread
    obtain rfl := Option.some.inj hread
    rw [htext] at hvalue
    exact ⟨total, htotal, Option.some.inj hvalue⟩
  · rintro ⟨total, htotal, hvalue⟩
    exact ⟨_, _, ⟨_, ⟨total, htotal, rfl⟩, rfl⟩, hfield _ _ _, by rw [htext, hvalue]⟩

lemma amountSum_perm {rows order : List AwardRow} (h : order.Perm rows) :
    amountSum order = amountSum rows := (h.map _).sum_eq

lemma totalExact_of_represents {rows order : List AwardRow} (horder : order.Perm rows)
    (h : ∀ part, part.Sublist rows → defaultContext.Represents (amountSum part)) :
    TotalExact order := by
  have hzero : Decimal.value ⟨false, 0, 0⟩ = 0 := rfl
  obtain ⟨amounts, hamounts, hvalues⟩ := mapM_rowAmount order
  rw [totalExact_iff hamounts, amountSum, ← hvalues]
  have hrunning : ∀ part, part <+: amounts →
      defaultContext.Represents (Decimal.value ⟨false, 0, 0⟩ + (part.map Decimal.value).sum) := by
    intro part hpart
    -- An initial part of the amounts is that of an initial part of the records.
    have hmap : part.map Decimal.value =
        (order.take part.length).map fun row => row.awardAmount.value := by
      rw [List.map_take, ← hvalues, ← List.map_take, ← List.prefix_iff_eq_take.mp hpart]
    obtain ⟨rest, hperm, hrest⟩ := (List.take_sublist part.length order).subperm.trans
      horder.subperm
    rw [hzero, zero_add, hmap]
    have hrepresents := h rest hrest
    rw [amountSum_perm hperm] at hrepresents
    exact hrepresents
  obtain ⟨total, htotal, hvalue⟩ := DecimalContext.sum_exact hrunning
  rw [hzero, zero_add] at hvalue
  exact ⟨total, htotal, hvalue⟩

/-- What a call releases of records whose parts are represented has their exact total. -/
theorem release_total_exact {x : Completion} {overflow : PyException} {b : Batch} {s : CallLocals}
    {rows : List AwardRow} (htool : x.tool = "summarize_federal_spending")
    (hreview : x.reviewReason b = none) (hrecords : b.records = rows.map AwardRow.dump)
    (h : ∀ part, part.Sublist rows → defaultContext.Represents (amountSum part)) :
    ∃ s' result total, ((inDefaultContext overflow x).release b).run s = (.ok (), s') ∧
      s'.envelope.result = some result ∧
      result.getStr? "returned_award_amount_total_usd" = some total ∧
      tokenValue total.toList = some (amountSum rows) := by
  obtain ⟨result, total, hresult, hread, hvalue⟩ := totalExact_of_represents (.refl rows) h
  obtain ⟨s', hrun, hreleased⟩ := run_release_summary overflow (s := s) htool hreview
    (hrecords ▸ hresult)
  exact ⟨s', result, total, hrun, hreleased, hread, hvalue⟩

/-- The total is exact, in every order of the records, if the context represents the sum of every
part of them; of a part that it does not represent no order has an exact total. -/
theorem summary_total_law (rows : List AwardRow) :
    ((∀ part, part.Sublist rows → defaultContext.Represents (amountSum part)) →
      ∀ order, order.Perm rows → TotalExact order) ∧
    ∀ part, part.Sublist rows → ¬ defaultContext.Represents (amountSum part) →
      ∀ order, order.Perm part → ¬ TotalExact order := by
  constructor
  · exact fun h order horder => totalExact_of_represents horder h
  · intro part _ hpart order horder hexact
    obtain ⟨amounts, hamounts, -⟩ := mapM_rowAmount order
    obtain ⟨total, htotal, hvalue⟩ := (totalExact_iff hamounts).mp hexact
    rw [amountSum_perm horder] at hvalue
    rw [← hvalue] at hpart
    exact hpart (DecimalContext.represents_sum htotal (DecimalContext.represents_zero rfl))

/-- A record with an amount. -/
def recordOf (internalId : ℤ) (generatedInternalId : String) (negative : Bool)
    (coefficient : ℕ) : AwardRow where
  internalId
  generatedInternalId
  awardId := none
  recipientName := none
  awardAmount := ⟨negative, coefficient, 0⟩
  awardingAgency := none

lemma represents_int {n : ℤ} (h : n.natAbs < 10 ^ 28) : defaultContext.Represents n := by
  have hvalue : (n : ℚ) = Decimal.value ⟨n < 0, n.natAbs, 0⟩ := by
    rw [Decimal.value_eq]
    rcases le_or_gt 0 n with hn | hn
    · simp [not_lt.mpr hn, abs_of_nonneg hn]
    · simp [hn, abs_of_neg hn]
  rw [hvalue]
  exact DecimalContext.represents_of_bounds (by decide) (by decide) le_rfl h

/-- An award and a repayment are totalled exactly, in either order. -/
theorem summary_total_law_repaid :
    ∀ order, order.Perm [recordOf 1 "A" false 700, recordOf 2 "B" true 250] → TotalExact order := by
  refine (summary_total_law _).1 fun part hpart => ?_
  have hsums : ∀ part ∈ [recordOf 1 "A" false 700, recordOf 2 "B" true 250].sublists,
      amountSum part ∈ [((0 : ℤ) : ℚ), (700 : ℤ), (-250 : ℤ), (450 : ℤ)] := by
    decide +kernel
  have hsum := hsums part (List.mem_sublists.mpr hpart)
  simp only [List.mem_cons, List.not_mem_nil, or_false] at hsum
  rcases hsum with hsum | hsum | hsum | hsum <;> rw [hsum]
  all_goals exact represents_int (by decide)

/-- A dollar is lost beside a large amount, and the total depends on the order. -/
theorem not_total_exact : ∃ rows order : List AwardRow, order.Perm rows ∧
    decimalTotal (rows.map AwardRow.dump) = some "0" ∧
    decimalTotal (order.map AwardRow.dump) = some "1" ∧ ¬ TotalExact rows := by
  let large := recordOf 1 "A" false (10 ^ 28)
  let dollar := recordOf 2 "B" false 1
  let repaid := recordOf 3 "C" true (10 ^ 28)
  have hlost : decimalTotal ([large, dollar, repaid].map AwardRow.dump) = some "0" := by
    decide
  have hkept : decimalTotal ([large, repaid, dollar].map AwardRow.dump) = some "1" := by
    decide
  have hsum : amountSum [large, dollar, repaid] = 1 := by decide +kernel
  refine ⟨[large, dollar, repaid], [large, repaid, dollar], .cons large (.swap dollar repaid []),
    hlost, hkept, ?_⟩
  rintro ⟨result, total, hresult, hread, hvalue⟩
  rw [summary, hlost] at hresult
  obtain rfl := Option.some.inj hresult
  obtain rfl : "0" = total := Option.some.inj hread
  have hzero : tokenValue "0".toList = some 0 := by decide
  rw [hsum, hzero] at hvalue
  exact absurd (Option.some.inj hvalue) (by norm_num)

end CivicGate
