import CivicGate.Framework.Table

/-!
# Tables of numbered rows

A counter numbers the rows of a table as they are added, and apart from that rows only leave it.
So a number names one row (`Numbered`), and a row that left never returns (`Left`).
-/

namespace CivicGate.Table

variable {ρ : Type*} (number : ρ → ℕ)

/-- The rows have numbers of their own, all of them given before `next`. -/
structure Numbered (rows : List ρ) (next : ℕ) : Prop where
  nodup : (rows.map number).Nodup
  fresh : ∀ r ∈ rows, number r < next

/-- The number was given, and no row has it any more. -/
def Left (rows : List ρ) (next n : ℕ) : Prop := n < next ∧ ∀ r ∈ rows, number r ≠ n

variable {number} {rows kept : List ρ} {next n : ℕ} {r : ρ}

lemma Numbered.nil (next : ℕ) : Numbered number [] next :=
  ⟨List.nodup_nil, fun _ hr => absurd hr List.not_mem_nil⟩

lemma Numbered.sublist (h : Numbered number rows next) (hk : kept.Sublist rows) :
    Numbered number kept next :=
  ⟨h.nodup.sublist (hk.map _), fun r hr => h.fresh r (hk.subset hr)⟩

lemma Numbered.notMem (h : Numbered number rows next) (hr : number r = next) :
    number r ∉ rows.map number := by
  intro hmem
  obtain ⟨q, hq, hqr⟩ := List.mem_map.mp hmem
  exact Nat.ne_of_lt (h.fresh q hq) (hqr.trans hr)

/-- A row is added with the next number. -/
lemma Numbered.concat (h : Numbered number rows next) (hr : number r = next) :
    Numbered number (rows ++ [r]) (next + 1) where
  nodup := nodup_concat h.nodup (h.notMem hr)
  fresh q hq := by
    rcases List.mem_append.mp hq with hq | hq
    · exact Nat.lt_succ_of_lt (h.fresh q hq)
    · rw [List.mem_singleton.mp hq, hr]
      exact Nat.lt_succ_self _

lemma Numbered.get?_eq (h : Numbered number rows next) (hr : r ∈ rows) :
    rows.find? (number · = number r) = some r := get?_of_mem h.nodup hr

lemma Left.sublist (h : Left number rows next n) (hk : kept.Sublist rows) :
    Left number kept next n := ⟨h.1, fun r hr => h.2 r (hk.subset hr)⟩

lemma Left.concat (h : Left number rows next n) (hr : number r = next) :
    Left number (rows ++ [r]) (next + 1) n := by
  refine ⟨Nat.lt_succ_of_lt h.1, fun q hq => ?_⟩
  rcases List.mem_append.mp hq with hq | hq
  · exact h.2 q hq
  · rw [List.mem_singleton.mp hq, hr]
    exact Nat.ne_of_gt h.1

/-- The rows without the one named, if any is. -/
lemma left_of_filter {named : Option ℕ} (hn : n < next) (hnamed : named = some n) :
    Left number (rows.filter fun r => named ≠ some (number r)) next n := by
  refine ⟨hn, fun r hr => ?_⟩
  rintro rfl
  exact of_decide_eq_true (List.mem_filter.mp hr).2 hnamed

end CivicGate.Table
