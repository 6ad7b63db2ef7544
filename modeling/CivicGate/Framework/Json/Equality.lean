import CivicGate.Framework.Json.Printing
import CivicGate.Framework.Json.Value

/-!
# Equality of JSON values in Python

`==` compares numbers by their value, so `1`, `1.0` and `True` are equal, and dictionaries
whatever the order of their keys.  `Json.pyEq` is that comparison of values whose dictionaries
have one entry for each key.
-/

namespace CivicGate

/-- The number a value is for `==`. -/
def Json.number? : Json → Option ℚ
  | .bool b => some (if b then 1 else 0)
  | .int n => some n
  | .float x => some x.value
  | _ => none

mutual
/-- `v == w` -/
def Json.pyEq : Json → Json → Bool
  | .null, .null => true
  | .str s, .str t => s = t
  | .list xs, .list ys => Json.pyEqItems xs ys
  | .dict kvs, .dict kws => kvs.length = kws.length && Json.pyEqEntries kvs kws
  | v, w => v.number?.isSome && v.number? = w.number?
/-- `Json.pyEq` on list items. -/
def Json.pyEqItems : List Json → List Json → Bool
  | [], [] => true
  | x :: xs, y :: ys => x.pyEq y && Json.pyEqItems xs ys
  | _, _ => false
/-- Every entry is in the other dictionary too. -/
def Json.pyEqEntries : List (String × Json) → List (String × Json) → Bool
  | [], _ => true
  | (k, v) :: kvs, kws =>
    (match kws.lookup k with
    | some w => v.pyEq w
    | none => false) && Json.pyEqEntries kvs kws
end

lemma KeysSorted.lookup_of_mem {kvs : List (String × Json)} (h : KeysSorted kvs)
    {e : String × Json} (he : e ∈ kvs) : kvs.lookup e.1 = some e.2 :=
  CivicGate.lookup_of_mem (List.pairwise_map.mpr (h.imp fun hlt => hlt.ne)) he

mutual
/-- A value in normal form is equal to itself. -/
lemma Json.pyEq_self : ∀ {v : Json}, v.normalize = v → v.pyEq v = true
  | .null, _ => by simp [Json.pyEq]
  | .bool b, _ => by simp [Json.pyEq, Json.number?]
  | .int n, _ => by simp [Json.pyEq, Json.number?]
  | .float x, _ => by simp [Json.pyEq, Json.number?]
  | .str s, _ => by simp [Json.pyEq]
  | .list xs, h => by
      rw [Json.normalize, Json.list.injEq] at h
      rw [Json.pyEq]
      exact Json.pyEqItems_self h
  | .dict kvs, h => by
      rw [Json.normalize, Json.dict.injEq] at h
      have hsorted : KeysSorted kvs := h ▸ normalizeDict_sorted kvs
      have hvalues : ∀ e ∈ kvs, e.2.normalize = e.2 := by
        have hall := Json.normalize_of_mem_normalizeDict kvs
        rwa [h] at hall
      rw [Json.pyEq, Json.pyEqEntries_self hvalues fun e he => hsorted.lookup_of_mem he]
      simp
lemma Json.pyEqItems_self : ∀ {xs : List Json}, Json.normalizeList xs = xs →
    Json.pyEqItems xs xs = true
  | [], _ => by rw [Json.pyEqItems]
  | x :: xs, h => by
      rw [Json.normalizeList, List.cons.injEq] at h
      rw [Json.pyEqItems, Json.pyEq_self h.1, Json.pyEqItems_self h.2, Bool.and_self]
lemma Json.pyEqEntries_self : ∀ {kvs kws : List (String × Json)},
    (∀ e ∈ kvs, e.2.normalize = e.2) → (∀ e ∈ kvs, kws.lookup e.1 = some e.2) →
    Json.pyEqEntries kvs kws = true
  | [], _, _, _ => by rw [Json.pyEqEntries]
  | (k, v) :: rest, kws, hvalues, hlookup => by
      rw [Json.pyEqEntries, hlookup (k, v) List.mem_cons_self]
      simp only [Json.pyEq_self (hvalues (k, v) List.mem_cons_self), Bool.true_and]
      exact Json.pyEqEntries_self (fun e he => hvalues e (List.mem_cons_of_mem _ he))
        fun e he => hlookup e (List.mem_cons_of_mem _ he)
end

/-- Sorting the keys of a dictionary leaves an equal one. -/
lemma Json.pyEq_normalize {kvs : List (String × Json)} (hkeys : (kvs.map Prod.fst).Nodup)
    (hvalues : ∀ e ∈ kvs, e.2.normalize = e.2) :
    (Json.dict kvs).normalize.pyEq (.dict kvs) = true := by
  have hlength := (keys_normalizeDict hkeys).length_eq
  rw [List.length_map, List.length_map] at hlength
  have hlookup : ∀ e ∈ Json.normalizeDict kvs, kvs.lookup e.1 = some e.2 := by
    intro e he
    have hsorted := (normalizeDict_sorted kvs).lookup_of_mem he
    rw [lookup_normalizeDict, lookup_reverse hkeys] at hsorted
    obtain ⟨v, hv, hnormal⟩ := Option.map_eq_some_iff.mp hsorted
    rw [hv, ← hnormal, hvalues _ (mem_of_lookup hv)]
  rw [Json.normalize, Json.pyEq,
    Json.pyEqEntries_self (Json.normalize_of_mem_normalizeDict kvs) hlookup, hlength]
  simp

end CivicGate
