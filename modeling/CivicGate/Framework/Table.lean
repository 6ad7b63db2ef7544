import Mathlib.Data.List.Forall2
import Mathlib.Data.List.Nodup

/-!
# Tables with a key

A table is the list of its rows in the order of their insertion, each with a key that no other
row has.  `Table.get?` is `SELECT … WHERE key = ?` and `Table.update` is
`UPDATE … SET … WHERE key = ?`.
-/

namespace CivicGate

namespace Table

variable {ρ κ : Type*} [DecidableEq κ] (key : ρ → κ)

/-- The row with this key. -/
def get? (k : κ) (rows : List ρ) : Option ρ := rows.find? (key · = k)

/-- The table with the row of this key changed. -/
def update (k : κ) (f : ρ → ρ) (rows : List ρ) : List ρ :=
  rows.map fun r => if key r = k then f r else r

variable {key} {rows : List ρ} {k : κ} {f : ρ → ρ} {r r' : ρ}

lemma mem_of_get? (h : get? key k rows = some r) : r ∈ rows := List.mem_of_find?_eq_some h

lemma key_of_get? (h : get? key k rows = some r) : key r = k := by
  simpa using List.find?_some h

lemma get?_eq_none : get? key k rows = none ↔ k ∉ rows.map key := by
  simp [get?, List.find?_eq_none]

/-- A row is found among those before it by every other key. -/
lemma get?_concat_of_ne (h : key r ≠ k) : get? key k (rows ++ [r]) = get? key k rows := by
  rw [get?, get?, List.find?_append, List.find?_singleton, decide_eq_false h]
  exact Option.or_none

omit [DecidableEq κ] in
/-- A key names one row. -/
lemma eq_of_key (hnodup : (rows.map key).Nodup) (hr : r ∈ rows) (hr' : r' ∈ rows)
    (h : key r = key r') : r = r' :=
  List.inj_on_of_nodup_map hnodup hr hr' h

lemma get?_of_mem (hnodup : (rows.map key).Nodup) (hr : r ∈ rows) :
    get? key (key r) rows = some r := by
  cases h : get? key (key r) rows with
  | none => exact absurd (List.mem_map_of_mem hr) (get?_eq_none.mp h)
  | some r' => rw [eq_of_key hnodup (mem_of_get? h) hr (key_of_get? h)]

/-- At most one row has a key. -/
lemma length_filter_le_one (hnodup : (rows.map key).Nodup) (k : κ) :
    (rows.filter (key · = k)).length ≤ 1 := by
  have hall : ∀ x ∈ (rows.filter (key · = k)).map key, x = k := by
    intro x hx
    obtain ⟨r, hr, rfl⟩ := List.mem_map.mp hx
    exact of_decide_eq_true (List.mem_filter.mp hr).2
  have hsub : ((rows.filter (key · = k)).map key).Nodup :=
    hnodup.sublist (List.filter_sublist.map _)
  rw [List.eq_replicate_of_mem hall, List.nodup_replicate, List.length_map] at hsub
  exact hsub

/-- The only row with its key. -/
lemma filter_of_mem (hnodup : (rows.map key).Nodup) (hr : r ∈ rows) :
    rows.filter (key · = key r) = [r] := by
  have hmem : r ∈ rows.filter (key · = key r) := List.mem_filter.mpr ⟨hr, decide_eq_true rfl⟩
  obtain ⟨x, hx⟩ := List.length_eq_one_iff.mp
    (Nat.le_antisymm (length_filter_le_one hnodup _) (List.length_pos_of_mem hmem))
  rw [hx] at hmem ⊢
  rw [List.mem_singleton.mp hmem]

lemma filter_eq_nil (h : k ∉ rows.map key) : rows.filter (key · = k) = [] := by
  refine List.filter_eq_nil_iff.mpr fun x hx hkey => h ?_
  exact List.mem_map.mpr ⟨x, hx, of_decide_eq_true hkey⟩

lemma length_update : (update key k f rows).length = rows.length := List.length_map ..

lemma mem_update : r ∈ update key k f rows ↔
    ∃ r' ∈ rows, (key r' = k ∧ r = f r') ∨ (key r' ≠ k ∧ r = r') := by
  simp only [update, List.mem_map]
  refine exists_congr fun r' => and_congr_right fun _ => ?_
  by_cases h : key r' = k <;> simp [h, eq_comm]

/-- The row of the key, changed. -/
lemma get?_update_self (hf : ∀ r, key (f r) = key r) :
    get? key k (update key k f rows) = (get? key k rows).map f := by
  induction rows with
  | nil => rfl
  | cons r rows ih =>
      rw [get?, get?, update, List.map_cons, List.find?_cons, List.find?_cons]
      by_cases hkey : key r = k
      · rw [if_pos hkey, hf, decide_eq_true hkey]
        rfl
      · rw [if_neg hkey, decide_eq_false hkey]
        exact ih

/-- A row is found as before by every key but the one of the row changed. -/
lemma get?_update_of_ne {k' : κ} (hne : k' ≠ k) (hf : ∀ r, key (f r) = key r) :
    get? key k' (update key k f rows) = get? key k' rows := by
  induction rows with
  | nil => rfl
  | cons r rows ih =>
      rw [get?, get?, update, List.map_cons, List.find?_cons, List.find?_cons]
      have ih' : List.find? (key · = k') (rows.map fun r => if key r = k then f r else r) =
          List.find? (key · = k') rows := ih
      by_cases hkey : key r = k
      · have hmiss : decide (key r = k') = false := decide_eq_false fun h => hne (h.symm.trans hkey)
        rw [if_pos hkey, hf, hmiss]
        exact ih'
      · rw [if_neg hkey, ih']

/-- An update that keeps a column keeps the column of the table. -/
lemma map_update {γ : Type*} {column : ρ → γ} (hf : ∀ r, column (f r) = column r) :
    (update key k f rows).map column = rows.map column := by
  rw [update, List.map_map]
  refine List.map_congr_left fun r _ => ?_
  simp only [Function.comp]
  split
  · exact hf r
  · rfl

/-- An update that keeps a property keeps which rows have it. -/
lemma filter_update {p : ρ → Bool} (hf : ∀ r, p (f r) = p r) :
    (update key k f rows).filter p = update key k f (rows.filter p) := by
  rw [update, update, List.filter_map]
  congr 1
  refine List.filter_congr fun r _ => ?_
  simp only [Function.comp]
  split
  · exact hf r
  · rfl

/-- An update of a row without a property keeps the rows that have it. -/
lemma filter_update_of_ne {p : ρ → Bool} (hp : ∀ r, p (f r) = p r)
    (h : ∀ r ∈ rows, key r = k → p r = false) :
    (update key k f rows).filter p = rows.filter p := by
  rw [filter_update hp]
  refine (List.map_congr_left fun r hr => ?_).trans (List.map_id _)
  obtain ⟨hmem, hpr⟩ := List.mem_filter.mp hr
  rw [if_neg fun hk => Bool.false_ne_true ((h r hmem hk).symm.trans hpr)]
  rfl

/-- An update that gives no row a property leaves a part of the rows that have it. -/
lemma sublist_filter_update {γ : Type*} {p : ρ → Bool} {column : ρ → γ}
    (hp : ∀ r, p (f r) = true → p r = true) (hcolumn : ∀ r, column (f r) = column r) :
    (((update key k f rows).filter p).map column).Sublist ((rows.filter p).map column) := by
  induction rows with
  | nil => exact .slnil
  | cons r rows ih =>
      have hcons : ∀ x, (p x = true → p r = true) → column x = column r →
          (((x :: update key k f rows).filter p).map column).Sublist
            (((r :: rows).filter p).map column) := by
        intro x hx hxr
        by_cases hpx : p x = true
        · rw [List.filter_cons_of_pos hpx, List.filter_cons_of_pos (hx hpx), List.map_cons,
            List.map_cons, hxr]
          exact ih.cons_cons _
        · rw [List.filter_cons_of_neg hpx, List.filter_cons]
          split
          · exact ih.cons _
          · exact ih
      rw [update, List.map_cons]
      split
      · exact hcons _ (hp r) (hcolumn r)
      · exact hcons r id rfl

omit [DecidableEq κ] in
lemma nodup_concat (hnodup : (rows.map key).Nodup) (h : key r ∉ rows.map key) :
    ((rows ++ [r]).map key).Nodup := by
  rw [List.map_append, List.map_singleton]
  exact List.nodup_append.mpr ⟨hnodup, List.nodup_singleton _, fun a ha b hb => by
    rw [List.mem_singleton] at hb
    rintro rfl
    exact h (hb ▸ ha)⟩

/-! ## Rows one by one -/

variable {R : ρ → ρ → Prop}

omit [DecidableEq κ] in
lemma forall₂_trans [IsTrans ρ R] {rows rows' rows'' : List ρ} (h : List.Forall₂ R rows rows')
    (h' : List.Forall₂ R rows' rows'') : List.Forall₂ R rows rows'' := by
  induction h generalizing rows'' with
  | nil => exact h'
  | cons hab _ ih =>
      cases h' with
      | cons hbc hrest => exact .cons (trans_of R hab hbc) (ih hrest)

/-- An update relates the rows to those after it if it relates the row it changes. -/
lemma forall₂_update [Std.Refl R] (hf : ∀ r ∈ rows, key r = k → R r (f r)) :
    List.Forall₂ R rows (update key k f rows) := by
  rw [update, List.forall₂_map_right_iff]
  refine List.forall₂_same.mpr fun r hr => ?_
  split
  · exact hf r hr ‹_›
  · exact Std.Refl.refl r

end Table

end CivicGate
