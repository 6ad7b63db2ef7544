import Mathlib.Data.List.Induction

/-!
# Validating a log

A validator reads a log from left to right and refuses it at the first entry it cannot accept.
`accept step s log` is the state after the whole log, `none` where an entry is refused.

The rules: a validator accepts every prefix of what it accepts (`accept_append`), a fact about
the entries read so far and the state they lead to is proved once for a step
(`accept_history`), and so is a fact about a state and any later one (`accept_relation`).
-/

namespace CivicGate

variable {σ α : Type*} (step : σ → α → Option σ)

/-- The state a log leads to. -/
def accept (s : σ) : List α → Option σ
  | [] => some s
  | a :: as =>
    match step s a with
    | none => none
    | some t => accept t as

variable {step}

@[simp] lemma accept_nil {s : σ} : accept step s [] = some s := rfl

lemma accept_cons {s : σ} {a : α} {as : List α} :
    accept step s (a :: as) = (step s a).bind fun t => accept step t as := by
  rw [accept]
  cases step s a <;> rfl

lemma accept_append {s : σ} {as bs : List α} :
    accept step s (as ++ bs) = (accept step s as).bind fun t => accept step t bs := by
  induction as generalizing s with
  | nil => rfl
  | cons a as ih =>
      rw [List.cons_append, accept_cons, accept_cons, Option.bind_assoc]
      congr 1
      funext t
      exact ih

lemma accept_append_eq_some {s u : σ} {as bs : List α} :
    accept step s (as ++ bs) = some u ↔
      ∃ t, accept step s as = some t ∧ accept step t bs = some u := by
  rw [accept_append, Option.bind_eq_some_iff]

lemma accept_concat_eq_some {s u : σ} {as : List α} {a : α} :
    accept step s (as ++ [a]) = some u ↔
      ∃ t, accept step s as = some t ∧ step t a = some u := by
  rw [accept_append_eq_some]
  simp only [accept_cons, accept_nil, Option.bind_fun_some]

/-- An accepted log, split at one of its entries. -/
lemma accept_split {s u : σ} {as bs : List α} {a : α}
    (h : accept step s (as ++ a :: bs) = some u) :
    ∃ t v, accept step s as = some t ∧ step t a = some v ∧ accept step v bs = some u := by
  obtain ⟨t, ht, h⟩ := accept_append_eq_some.mp h
  rw [accept_cons, Option.bind_eq_some_iff] at h
  obtain ⟨v, hv, h⟩ := h
  exact ⟨t, v, ht, hv, h⟩

/-- A fact about the entries read and the state they lead to, from one step to whole logs. -/
lemma accept_history {I : List α → σ → Prop} {s t : σ} {as : List α} (hnil : I [] s)
    (hstep : ∀ as s a t, I as s → step s a = some t → I (as ++ [a]) t)
    (h : accept step s as = some t) : I as t := by
  induction as using List.reverseRecOn generalizing t with
  | nil =>
      rw [accept_nil, Option.some.injEq] at h
      exact h ▸ hnil
  | append_singleton as a ih =>
      obtain ⟨u, hu, ha⟩ := accept_concat_eq_some.mp h
      exact hstep as u a t (ih hu) ha

/-- A fact about a state and any later one, from one step to whole logs. -/
lemma accept_relation {R : σ → σ → Prop} (hrefl : ∀ s, R s s)
    (htrans : ∀ s t u, R s t → R t u → R s u)
    (hstep : ∀ s a t, step s a = some t → R s t) {s t : σ} {as : List α}
    (h : accept step s as = some t) : R s t := by
  induction as generalizing s with
  | nil =>
      rw [accept_nil, Option.some.injEq] at h
      exact h ▸ hrefl s
  | cons a as ih =>
      rw [accept_cons, Option.bind_eq_some_iff] at h
      obtain ⟨u, hu, h⟩ := h
      exact htrans _ _ _ (hstep _ _ _ hu) (ih h)

/-- A property the steps on the entries of a log keep. -/
lemma accept_invariant {I : σ → Prop} {s t : σ} {as : List α} (hs : I s)
    (hstep : ∀ s a t, a ∈ as → I s → step s a = some t → I t)
    (h : accept step s as = some t) : I t := by
  induction as generalizing s with
  | nil =>
      rw [accept_nil, Option.some.injEq] at h
      exact h ▸ hs
  | cons a as ih =>
      rw [accept_cons, Option.bind_eq_some_iff] at h
      obtain ⟨u, hu, h⟩ := h
      exact ih (hstep s a u (List.mem_cons_self ..) hs hu)
        (fun s b t hb => hstep s b t (List.mem_cons_of_mem _ hb)) h

end CivicGate
