import Mathlib.Data.List.Basic

/-!
# Tables indexed by place

A table that grows at its end and whose entries are replaced one at a time: an entry is named by
its place, and a place, once given, stays.  A property of all entries survives a replacement if
the entries elsewhere keep it and the new entry has it (`Slots.All.set`), and a growth likewise
(`Slots.All.concat`).
-/

namespace CivicGate.Slots

variable {α : Type*} {xs : List α} {i place : ℕ} {x y : α}

/-- The property holds of every entry at its place. -/
def All (P : ℕ → α → Prop) (xs : List α) : Prop := ∀ i x, xs[i]? = some x → P i x

lemma all_nil (P : ℕ → α → Prop) : All P [] := by
  simp [All]

lemma lt_length (h : xs[i]? = some x) : i < xs.length := (List.getElem?_eq_some_iff.mp h).1

/-- An entry after a replacement is the new one, or one elsewhere. -/
lemma getElem?_set_cases (h : (xs.set place y)[i]? = some x) :
    (i = place ∧ x = y) ∨ (i ≠ place ∧ xs[i]? = some x) := by
  rw [List.getElem?_set] at h
  split at h
  · rename_i hplace
    split at h
    · exact .inl ⟨hplace.symm, (Option.some.inj h).symm⟩
    · cases h
  · rename_i hne
    exact .inr ⟨Ne.symm hne, h⟩

/-- An entry after a growth is an old one, or the new one at the end. -/
lemma getElem?_concat_cases (h : (xs ++ [y])[i]? = some x) :
    xs[i]? = some x ∨ (i = xs.length ∧ x = y) := by
  rcases Nat.lt_trichotomy i xs.length with hlt | rfl | hgt
  · exact .inl (by rwa [List.getElem?_append_left hlt] at h)
  · exact .inr ⟨rfl, by simpa using h.symm⟩
  · rw [List.getElem?_eq_none (by simpa using Nat.succ_le_of_lt hgt)] at h
    cases h

variable {P Q : ℕ → α → Prop}

lemma All.set (h : All P xs) (hkeep : ∀ i x, i ≠ place → xs[i]? = some x → P i x → Q i x)
    (hnew : Q place y) : All Q (xs.set place y) := by
  intro i x hx
  rcases getElem?_set_cases hx with ⟨rfl, rfl⟩ | ⟨hne, hx⟩
  · exact hnew
  · exact hkeep i x hne hx (h i x hx)

lemma All.concat (h : All P xs) (hkeep : ∀ i x, xs[i]? = some x → P i x → Q i x)
    (hnew : Q xs.length y) : All Q (xs ++ [y]) := by
  intro i x hx
  rcases getElem?_concat_cases hx with hx | ⟨rfl, rfl⟩
  · exact hkeep i x hx (h i x hx)
  · exact hnew

lemma All.mapIdx {f : ℕ → α → α} (h : All P xs)
    (hmap : ∀ i x, xs[i]? = some x → P i x → Q i (f i x)) : All Q (xs.mapIdx f) := by
  intro i y hy
  rw [List.getElem?_mapIdx] at hy
  obtain ⟨x, hx, rfl⟩ := Option.map_eq_some_iff.mp hy
  exact hmap i x hx (h i x hx)

lemma All.imp (h : All P xs) (himp : ∀ i x, xs[i]? = some x → P i x → Q i x) : All Q xs :=
  fun i x hx => himp i x hx (h i x hx)

/-! ## What is read at a place -/

variable {β : Type*}

/-- What is read of the entry at a place. -/
def read (f : α → β) (xs : List α) (i : ℕ) : Option β := (xs[i]?).map f

lemma read_eq_some {f : α → β} (h : xs[i]? = some x) : read f xs i = some (f x) := by
  rw [read, h, Option.map_some]

lemma read_set {f : α → β} (h : xs[place]? = some x) (i : ℕ) :
    read f (xs.set place y) i = if i = place then some (f y) else read f xs i := by
  rw [read, List.getElem?_set]
  by_cases hi : i = place
  · rw [if_pos hi.symm, if_pos (lt_length h), if_pos hi, Option.map_some]
  · rw [if_neg (Ne.symm hi), if_neg hi, read]

/-- A replacement that leaves what is read of the entry leaves it everywhere. -/
lemma read_set_same {f : α → β} (h : xs[place]? = some x) (hf : f y = f x) (i : ℕ) :
    read f (xs.set place y) i = read f xs i := by
  rw [read_set h]
  by_cases hi : i = place
  · rw [if_pos hi, hi, read_eq_some h, hf]
  · rw [if_neg hi]

lemma read_mapIdx {f : α → β} {g : ℕ → α → α} (i : ℕ) :
    read f (xs.mapIdx g) i = (xs[i]?).map fun x => f (g i x) := by
  rw [read, List.getElem?_mapIdx, Option.map_map]
  rfl

lemma read_concat {f : α → β} {b : β} (h : read f xs i = some b) :
    read f (xs ++ [y]) i = some b := by
  obtain ⟨x, hx, hb⟩ := Option.map_eq_some_iff.mp h
  rw [read, List.getElem?_append_left (lt_length hx), hx, Option.map_some, hb]

end CivicGate.Slots
