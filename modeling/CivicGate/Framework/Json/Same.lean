import CivicGate.Framework.Json.Printing

/-!
# Documents up to the order of keys

`Tree.Same` compares documents as JSON values: the order of keys does not matter, and a boolean is
no number.
-/

namespace CivicGate

variable {N : Type}

/-- The documents are the same but for the order of keys. -/
def Tree.Same (t u : Tree String N) : Prop := t.sort = u.sort

lemma Tree.Same.refl (t : Tree String N) : t.Same t := Eq.refl t.sort

lemma Tree.Same.symm {t u : Tree String N} (h : t.Same u) : u.Same t := Eq.symm h

lemma Tree.same_sort (t : Tree String N) : t.Same t.sort :=
  (t.sort.sort_of_inOrder t.inOrder_sort).symm

/-- Objects are the same if their keys name the same. -/
lemma Tree.same_dict_iff {kvs kws : List (String × Tree String N)} (h : (kvs.map Prod.fst).Nodup)
    (h' : (kws.map Prod.fst).Nodup) : (Tree.dict kvs).Same (.dict kws) ↔
      ∀ k, Option.Rel Tree.Same (kvs.lookup k) (kws.lookup k) := by
  rw [Tree.Same, Tree.sort_dict_eq_iff h h']
  refine forall_congr' fun k => ?_
  cases kvs.lookup k <;> cases kws.lookup k <;> simp [Tree.Same]

lemma Tree.sortItems_eq_map (ts : List (Tree String N)) : Tree.sortItems ts = ts.map Tree.sort := by
  induction ts with
  | nil => rfl
  | cons t ts ih => rw [Tree.sortItems, ih, List.map_cons]

/-- Lists are the same if their items are. -/
lemma Tree.same_list_iff {ts us : List (Tree String N)} :
    (Tree.list ts).Same (.list us) ↔ List.Forall₂ Tree.Same ts us := by
  rw [Tree.Same, Tree.sort, Tree.sort, Tree.list.injEq, Tree.sortItems_eq_map,
    Tree.sortItems_eq_map, ← List.forall₂_eq_eq_eq, List.forall₂_map_left_iff,
    List.forall₂_map_right_iff]
  rfl

section

variable {kvs : List (String × Tree String N)} {k : String} {t : Tree String N}

/-- The keys of an object are told apart. -/
lemma nodup_of_keysOk (h : (Tree.dict kvs).keysOk distinct = true) : (kvs.map Prod.fst).Nodup :=
  distinct_iff.mp (Bool.and_eq_true_iff.mp h).1

lemma keysOk_of_lookup (h : (Tree.dict kvs).keysOk distinct = true)
    (hk : kvs.lookup k = some t) : t.keysOk distinct = true :=
  Tree.keysOkEntries_iff.mp (Bool.and_eq_true_iff.mp h).2 _ (mem_of_lookup hk)

lemma mem_keys_of_lookup {α : Type} {kvs : List (String × α)} {a : α}
    (h : kvs.lookup k = some a) : k ∈ kvs.map Prod.fst :=
  List.mem_map_of_mem (mem_of_lookup h)

end

/-! ## Replacing -/

section

variable {α : Type} {kvs : List (String × α)} {k l : String} {a : α}

/-- The entries with the value of a key replaced. -/
def replaceKey (kvs : List (String × α)) (k : String) (a : α) : List (String × α) :=
  kvs.map fun e => (e.1, if e.1 = k then a else e.2)

lemma keys_replaceKey : (replaceKey kvs k a).map Prod.fst = kvs.map Prod.fst := by
  rw [replaceKey, List.map_map]
  rfl

lemma nodup_replaceKey (h : (kvs.map Prod.fst).Nodup) :
    ((replaceKey kvs k a).map Prod.fst).Nodup := by
  rwa [keys_replaceKey]

lemma lookup_replaceKey_self (h : k ∈ kvs.map Prod.fst) :
    (replaceKey kvs k a).lookup k = some a := by
  induction kvs with
  | nil => cases h
  | cons e kvs ih =>
      obtain ⟨l, b⟩ := e
      rw [replaceKey, List.map_cons]
      by_cases hl : k = l
      · subst hl
        rw [if_pos rfl, List.lookup_cons_self]
      · rw [lookup_cons_of_ne hl]
        exact ih ((List.mem_cons.mp h).resolve_left hl)

lemma lookup_replaceKey_of_ne (h : l ≠ k) : (replaceKey kvs k a).lookup l = kvs.lookup l := by
  induction kvs with
  | nil => rfl
  | cons e kvs ih =>
      obtain ⟨m, b⟩ := e
      rw [replaceKey, List.map_cons]
      by_cases hm : l = m
      · subst hm
        rw [List.lookup_cons_self, List.lookup_cons_self, if_neg h]
      · rw [lookup_cons_of_ne hm, lookup_cons_of_ne hm]
        exact ih

/-- Replacing a value by itself changes nothing. -/
lemma replaceKey_of_lookup (h : (kvs.map Prod.fst).Nodup) (hk : kvs.lookup k = some a) :
    replaceKey kvs k a = kvs := by
  refine (List.map_congr_left fun e he => ?_).trans (List.map_id kvs)
  by_cases hkey : e.1 = k
  · have hvalue := lookup_of_mem h (k := e.1) (a := e.2) he
    rw [hkey, hk] at hvalue
    rw [if_pos hkey, Option.some.inj hvalue]
    rfl
  · rw [if_neg hkey]
    rfl

end

lemma keysOk_replaceKey {kvs : List (String × Tree String N)} {k : String} {t : Tree String N}
    (h : (Tree.dict kvs).keysOk distinct = true) (ht : t.keysOk distinct = true) :
    (Tree.dict (replaceKey kvs k t)).keysOk distinct = true := by
  refine Bool.and_eq_true_iff.mpr ⟨distinct_iff.mpr (nodup_replaceKey (nodup_of_keysOk h)),
    Tree.keysOkEntries_iff.mpr fun e he => ?_⟩
  obtain ⟨e', he', rfl⟩ := List.mem_map.mp he
  show (if e'.1 = k then t else e'.2).keysOk distinct = true
  split_ifs
  · exact ht
  · exact Tree.keysOkEntries_iff.mp (Bool.and_eq_true_iff.mp h).2 e' he'

end CivicGate
