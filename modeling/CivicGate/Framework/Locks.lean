import Mathlib.Logic.Function.Basic
import Mathlib.Data.List.Basic

/-!
# Row locks

What a transaction may take on a row it reads: `SELECT … FOR UPDATE` takes the row for one
holder (`UpdateLocks`), `SELECT … FOR SHARE` for any number of them (`ShareLocks`).  A lock is
kept until its holder's transaction ends, and whoever finds the row taken waits.
-/

namespace CivicGate

variable {κ ι : Type*} [DecidableEq κ] [DecidableEq ι]

/-- For each row the transaction that holds it for update. -/
structure UpdateLocks (κ ι : Type*) where
  holder : κ → Option ι := fun _ => none

namespace UpdateLocks

variable {l : UpdateLocks κ ι} {k k' : κ} {i j : ι}

/-- Nobody else holds the row. -/
def Available (l : UpdateLocks κ ι) (i : ι) (k : κ) : Prop :=
  l.holder k = none ∨ l.holder k = some i

instance : Decidable (l.Available i k) := inferInstanceAs (Decidable (_ ∨ _))

/-- The row is now held by `i`. -/
def acquire (l : UpdateLocks κ ι) (i : ι) (k : κ) : UpdateLocks κ ι :=
  ⟨Function.update l.holder k (some i)⟩

/-- The transaction of `i` ends. -/
def release (l : UpdateLocks κ ι) (i : ι) : UpdateLocks κ ι :=
  ⟨fun k => if l.holder k = some i then none else l.holder k⟩

omit [DecidableEq ι] in
lemma holder_acquire : (l.acquire i k).holder = Function.update l.holder k (some i) := rfl

omit [DecidableEq ι] in
@[simp] lemma acquire_self : (l.acquire i k).holder k = some i := Function.update_self ..

omit [DecidableEq ι] in
/-- Taking an available row takes none from another holder. -/
lemma acquire_of_held (havailable : l.Available i k) (h : l.holder k' = some j) :
    (l.acquire i k).holder k' = some j := by
  by_cases hk : k' = k
  · subst hk
    rcases havailable with hnone | hown
    · rw [hnone] at h
      cases h
    · rw [acquire_self, ← hown, h]
  · rw [holder_acquire, Function.update_of_ne hk, h]

omit [DecidableEq κ] in
lemma release_of_held (hne : j ≠ i) (h : l.holder k = some j) :
    (l.release i).holder k = some j := by
  have hother : l.holder k ≠ some i := fun hi => hne (Option.some.inj (h.symm.trans hi))
  exact (if_neg hother).trans h

end UpdateLocks

/-- For each row the transactions that hold it against updates. -/
structure ShareLocks (κ ι : Type*) where
  holders : κ → List ι := fun _ => []

namespace ShareLocks

variable {l : ShareLocks κ ι} {k k' : κ} {i j : ι}

/-- The row is now also held by `i`. -/
def acquire (l : ShareLocks κ ι) (i : ι) (k : κ) : ShareLocks κ ι :=
  ⟨Function.update l.holders k (i :: l.holders k)⟩

/-- The transaction of `i` ends. -/
def release (l : ShareLocks κ ι) (i : ι) : ShareLocks κ ι :=
  ⟨fun k => (l.holders k).filter (· ≠ i)⟩

omit [DecidableEq ι] in
lemma holders_acquire :
    (l.acquire i k).holders = Function.update l.holders k (i :: l.holders k) := rfl

omit [DecidableEq ι] in
lemma mem_acquire_self : i ∈ (l.acquire i k).holders k := by
  rw [holders_acquire, Function.update_self]
  exact List.mem_cons_self ..

omit [DecidableEq ι] in
lemma mem_acquire (h : j ∈ l.holders k') : j ∈ (l.acquire i k).holders k' := by
  by_cases hk : k' = k
  · subst hk
    rw [holders_acquire, Function.update_self]
    exact List.mem_cons_of_mem _ h
  · rwa [holders_acquire, Function.update_of_ne hk]

omit [DecidableEq κ] in
lemma mem_release (hne : j ≠ i) (h : j ∈ l.holders k) : j ∈ (l.release i).holders k :=
  List.mem_filter.mpr ⟨h, decide_eq_true hne⟩

end ShareLocks

end CivicGate
