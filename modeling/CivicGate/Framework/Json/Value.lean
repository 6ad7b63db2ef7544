import CivicGate.Framework.Json.Float
import Mathlib.Data.List.Basic
import Mathlib.Data.List.Sort
import Mathlib.Data.String.Basic

/-!
# JSON values as Python holds them

The values `json.loads` builds and `json.dumps` prints: `None`, booleans, integers of any
size, finite floats, strings, lists and string-keyed dictionaries.

A dictionary is carried as the list of its insertions, a later entry for a key overriding an
earlier one, and `Json.normalize` is the dictionary itself: one entry for each key, in key
order.
-/

namespace CivicGate

/-! ## Values -/

/-- A JSON value; `dict` lists the insertions that built the dictionary. -/
inductive Json
  | null
  | bool (b : Bool)
  | int (n : ℤ)
  | float (x : PyFloat)
  | str (s : String)
  | list (xs : List Json)
  | dict (kvs : List (String × Json))

instance : Inhabited Json := ⟨.null⟩

/-- A Python number as a JSON value. -/
def PyNum.toJson : PyNum → Json
  | .int n => .int n
  | .float x => .float x

/-- An optional string as a JSON value, `None` being `null`. -/
def optStr : Option String → Json
  | none => .null
  | some s => .str s

lemma PyNum.toJson_injective : Function.Injective PyNum.toJson := by
  intro a b h
  cases a <;> cases b <;> simp_all [PyNum.toJson]

@[simp] lemma optStr_inj {a b : Option String} : optStr a = optStr b ↔ a = b := by
  cases a <;> cases b <;> simp [optStr]

/-! ### Equality is decidable -/

mutual
/-- Structural equality, as a Boolean test. -/
def Json.beq : Json → Json → Bool
  | .null, .null => true
  | .bool a, .bool b => a = b
  | .int a, .int b => a = b
  | .float a, .float b => a = b
  | .str a, .str b => a = b
  | .list xs, .list ys => Json.beqList xs ys
  | .dict xs, .dict ys => Json.beqDict xs ys
  | _, _ => false
/-- `Json.beq` on list items. -/
def Json.beqList : List Json → List Json → Bool
  | [], [] => true
  | x :: xs, y :: ys => Json.beq x y && Json.beqList xs ys
  | _, _ => false
/-- `Json.beq` on dictionary entries. -/
def Json.beqDict : List (String × Json) → List (String × Json) → Bool
  | [], [] => true
  | (k, x) :: xs, (l, y) :: ys => decide (k = l) && Json.beq x y && Json.beqDict xs ys
  | _, _ => false
end

mutual
lemma Json.beq_iff : ∀ a b : Json, Json.beq a b = true ↔ a = b
  | .null, b => by cases b <;> simp [Json.beq]
  | .bool _, b => by cases b <;> simp [Json.beq]
  | .int _, b => by cases b <;> simp [Json.beq]
  | .float _, b => by cases b <;> simp [Json.beq]
  | .str _, b => by cases b <;> simp [Json.beq]
  | .list xs, b => by cases b <;> simp [Json.beq, Json.beqList_iff xs]
  | .dict xs, b => by cases b <;> simp [Json.beq, Json.beqDict_iff xs]
lemma Json.beqList_iff : ∀ xs ys : List Json, Json.beqList xs ys = true ↔ xs = ys
  | [], ys => by cases ys <;> simp [Json.beqList]
  | x :: xs, ys => by
      cases ys <;> simp [Json.beqList, Json.beq_iff x, Json.beqList_iff xs]
lemma Json.beqDict_iff : ∀ xs ys : List (String × Json), Json.beqDict xs ys = true ↔ xs = ys
  | [], ys => by cases ys <;> simp [Json.beqDict]
  | (k, x) :: xs, ys => by
      cases ys <;> simp [Json.beqDict, Json.beq_iff x, Json.beqDict_iff xs, Prod.ext_iff]
end

instance : DecidableEq Json := fun a b => decidable_of_iff _ (Json.beq_iff a b)

/-! ## Normal form -/

/-- Insert a key into a key-ordered dictionary that may already hold a later entry for it. -/
def insertKey (k : String) (v : Json) : List (String × Json) → List (String × Json)
  | [] => [(k, v)]
  | (l, w) :: rest =>
    if k < l then (k, v) :: (l, w) :: rest
    else if k = l then (l, w) :: rest
    else (l, w) :: insertKey k v rest

mutual
/-- The value with every dictionary in key order and each key once. -/
def Json.normalize : Json → Json
  | .list xs => .list (Json.normalizeList xs)
  | .dict kvs => .dict (Json.normalizeDict kvs)
  | v => v
/-- `Json.normalize` on list items. -/
def Json.normalizeList : List Json → List Json
  | [] => []
  | x :: xs => x.normalize :: Json.normalizeList xs
/-- `Json.normalize` on dictionary entries. -/
def Json.normalizeDict : List (String × Json) → List (String × Json)
  | [] => []
  | (k, v) :: rest => insertKey k v.normalize (Json.normalizeDict rest)
end

/-- Keys strictly increasing. -/
def KeysSorted (kvs : List (String × Json)) : Prop := kvs.Pairwise (·.1 < ·.1)

instance (kvs : List (String × Json)) : Decidable (KeysSorted kvs) :=
  inferInstanceAs (Decidable (List.Pairwise _ kvs))

lemma mem_insertKey {k : String} {v : Json} {e : String × Json} :
    ∀ {kvs : List (String × Json)}, e ∈ insertKey k v kvs → e = (k, v) ∨ e ∈ kvs
  | [], h => by simpa [insertKey] using h
  | (l, w) :: rest, h => by
      unfold insertKey at h
      split_ifs at h with hlt heq
      · simpa using h
      · exact .inr h
      · rcases List.mem_cons.mp h with rfl | h
        · exact .inr (List.mem_cons_self ..)
        · exact (mem_insertKey h).imp_right (List.mem_cons_of_mem _)

lemma insertKey_sorted {k : String} {v : Json} :
    ∀ {kvs : List (String × Json)}, KeysSorted kvs → KeysSorted (insertKey k v kvs)
  | [], _ => List.pairwise_singleton _ _
  | (l, w) :: rest, h => by
      obtain ⟨hl, hrest⟩ := List.pairwise_cons.mp h
      unfold insertKey
      split_ifs with hlt heq
      · refine List.pairwise_cons.mpr ⟨fun e he => ?_, h⟩
        rcases List.mem_cons.mp he with rfl | he
        · exact hlt
        · exact hlt.trans (hl e he)
      · exact h
      · refine List.pairwise_cons.mpr ⟨fun e he => ?_, insertKey_sorted hrest⟩
        rcases mem_insertKey he with rfl | he
        · exact lt_of_le_of_ne (not_lt.mp hlt) (Ne.symm heq)
        · exact hl e he

lemma insertKey_of_lt {k : String} {v : Json} {kvs : List (String × Json)}
    (h : ∀ e ∈ kvs, k < e.1) : insertKey k v kvs = (k, v) :: kvs := by
  cases kvs with
  | nil => rfl
  | cons e rest => rw [insertKey, if_pos (h e (List.mem_cons_self ..))]

lemma normalizeDict_sorted : ∀ kvs : List (String × Json), KeysSorted (Json.normalizeDict kvs)
  | [] => by rw [Json.normalizeDict]; exact List.Pairwise.nil
  | (k, v) :: rest => by
      rw [Json.normalizeDict]
      exact insertKey_sorted (normalizeDict_sorted rest)

/-- A key-ordered dictionary whose values are normal is its own normal form. -/
lemma normalizeDict_of_sorted : ∀ {kvs : List (String × Json)}, KeysSorted kvs →
    (∀ e ∈ kvs, e.2.normalize = e.2) → Json.normalizeDict kvs = kvs
  | [], _, _ => by rw [Json.normalizeDict]
  | (k, v) :: rest, h, hv => by
      obtain ⟨hk, hrest⟩ := List.pairwise_cons.mp h
      rw [Json.normalizeDict, hv (k, v) (List.mem_cons_self ..),
        normalizeDict_of_sorted hrest (fun e he => hv e (List.mem_cons_of_mem _ he)),
        insertKey_of_lt hk]

mutual
lemma Json.normalize_normalize : ∀ v : Json, v.normalize.normalize = v.normalize
  | .null => by simp [Json.normalize]
  | .bool _ => by simp [Json.normalize]
  | .int _ => by simp [Json.normalize]
  | .float _ => by simp [Json.normalize]
  | .str _ => by simp [Json.normalize]
  | .list xs => by simp only [Json.normalize, Json.normalizeList_normalizeList xs]
  | .dict kvs => by
      simp only [Json.normalize]
      rw [normalizeDict_of_sorted (normalizeDict_sorted kvs)
        (Json.normalize_of_mem_normalizeDict kvs)]
lemma Json.normalizeList_normalizeList : ∀ xs : List Json,
    Json.normalizeList (Json.normalizeList xs) = Json.normalizeList xs
  | [] => by simp [Json.normalizeList]
  | x :: xs => by
      simp only [Json.normalizeList, Json.normalize_normalize x,
        Json.normalizeList_normalizeList xs]
lemma Json.normalize_of_mem_normalizeDict : ∀ kvs : List (String × Json),
    ∀ e ∈ Json.normalizeDict kvs, e.2.normalize = e.2
  | [], e, he => by simp [Json.normalizeDict] at he
  | (k, v) :: rest, e, he => by
      rw [Json.normalizeDict] at he
      rcases mem_insertKey he with rfl | he
      · exact Json.normalize_normalize v
      · exact Json.normalize_of_mem_normalizeDict rest e he
end

/-! ### Values in normal form -/

@[simp] lemma Json.normalize_null : Json.null.normalize = .null := by
  rw [Json.normalize] <;> simp

@[simp] lemma Json.normalize_bool (b : Bool) : (Json.bool b).normalize = .bool b := by
  rw [Json.normalize] <;> simp

@[simp] lemma Json.normalize_int (n : ℤ) : (Json.int n).normalize = .int n := by
  rw [Json.normalize] <;> simp

@[simp] lemma Json.normalize_float (x : PyFloat) : (Json.float x).normalize = .float x := by
  rw [Json.normalize] <;> simp

@[simp] lemma Json.normalize_str (s : String) : (Json.str s).normalize = .str s := by
  rw [Json.normalize] <;> simp

@[simp] lemma PyNum.normalize_toJson (x : PyNum) : x.toJson.normalize = x.toJson := by
  cases x <;> (rw [PyNum.toJson, Json.normalize] <;> simp)

@[simp] lemma normalize_optStr (s : Option String) : (optStr s).normalize = optStr s := by
  cases s <;> simp [optStr]

/-- A dictionary written in key order, of normal values, is its own normal form. -/
lemma Json.normalize_dict {kvs : List (String × Json)} (h : (kvs.map Prod.fst).Pairwise (· < ·))
    (hv : ∀ e ∈ kvs, e.2.normalize = e.2) : (Json.dict kvs).normalize = .dict kvs := by
  rw [Json.normalize, normalizeDict_of_sorted (List.pairwise_map.mp h) hv]

lemma Json.normalizeList_eq_map : ∀ xs : List Json,
    Json.normalizeList xs = xs.map Json.normalize
  | [] => by rw [Json.normalizeList, List.map_nil]
  | x :: xs => by rw [Json.normalizeList, List.map_cons, Json.normalizeList_eq_map xs]

/-- A list of normal values is its own normal form. -/
lemma Json.normalize_list {xs : List Json} (h : ∀ x ∈ xs, x.normalize = x) :
    (Json.list xs).normalize = .list xs := by
  rw [Json.normalize, Json.normalizeList_eq_map, List.map_congr_left h, List.map_id']

@[simp] lemma Json.normalize_list_str (xs : List String) :
    (Json.list (xs.map .str)).normalize = .list (xs.map .str) := by
  refine Json.normalize_list fun x hx => ?_
  obtain ⟨s, -, rfl⟩ := List.mem_map.mp hx
  exact Json.normalize_str s

/-! ## Reading a dictionary -/

/-- `value.get(key)` on a normalized dictionary; `none` for a missing key or another type. -/
def Json.get? (v : Json) (k : String) : Option Json :=
  match v with
  | .dict kvs => kvs.lookup k
  | _ => none

/-- `set(value)`: the keys of a dictionary, in order. -/
def Json.keys : Json → List String
  | .dict kvs => kvs.map (·.1)
  | _ => []

/-- `value[key]` where the code requires `type(value[key]) is str`. -/
def Json.getStr? (v : Json) (k : String) : Option String :=
  match v.get? k with
  | some (.str s) => some s
  | _ => none

/-- `value[key]` where the code requires `type(value[key]) is int`. -/
def Json.getInt? (v : Json) (k : String) : Option ℤ :=
  match v.get? k with
  | some (.int n) => some n
  | _ => none

/-- `value[key]` where the code requires `type(value[key]) is bool`. -/
def Json.getBool? (v : Json) (k : String) : Option Bool :=
  match v.get? k with
  | some (.bool b) => some b
  | _ => none

/-- `value[key]` where the code requires `type(value[key]) in {int, float}`. -/
def Json.getNum? (v : Json) (k : String) : Option PyNum :=
  match v.get? k with
  | some (.int n) => some (.int n)
  | some (.float x) => some (.float x)
  | _ => none

/-- `value[key]` where the code takes a string or `None`. -/
def Json.getOptStr? (v : Json) (k : String) : Option (Option String) :=
  match v.get? k with
  | some (.str s) => some (some s)
  | some .null => some none
  | _ => none

/-- `value[key]` where the code requires an integer of at least `least`. -/
def Json.getNat? (v : Json) (k : String) (least : ℕ) : Option ℕ :=
  match v.get? k with
  | some (.int n) => if least ≤ n then some n.toNat else none
  | _ => none

/-- `value[key]` where the code requires one of the texts of an enumeration. -/
def Json.getEnum? {α : Type} (v : Json) (k : String) (all : List α) (text : α → String) :
    Option α :=
  match v.get? k with
  | some (.str s) => all.find? (text · = s)
  | _ => none

/-- `type(value) is dict and set(value) == names`, for distinct names. -/
def Json.hasFields (v : Json) (names : List String) : Bool :=
  match v with
  | .dict kvs => kvs.length = names.length && names.all (· ∈ kvs.map (·.1))
  | _ => false

/-- `value[key]` where the code requires `type(value[key]) is list`. -/
def Json.getList? (v : Json) (k : String) : Option (List Json) :=
  match v.get? k with
  | some (.list xs) => some xs
  | _ => none

/-! ## Reading a normalized dictionary -/

lemma lookup_eq_none_of_lt {k : String} {kvs : List (String × Json)}
    (h : ∀ e ∈ kvs, k < e.1) : kvs.lookup k = none :=
  List.lookup_eq_none_iff.mpr fun e he => by simpa using (h e he).ne

lemma lookup_insertKey {k l : String} {v : Json} {kvs : List (String × Json)}
    (h : KeysSorted kvs) :
    (insertKey k v kvs).lookup l =
      if l = k then some ((kvs.lookup k).getD v) else kvs.lookup l := by
  induction kvs with
  | nil => by_cases hl : l = k <;> simp [insertKey, hl]
  | cons e rest ih =>
      obtain ⟨m, w⟩ := e
      obtain ⟨hm, hrest⟩ := List.pairwise_cons.mp h
      rw [insertKey]
      by_cases hlt : k < m
      · have hnone : ((m, w) :: rest).lookup k = none := by
          refine lookup_eq_none_of_lt fun e he => ?_
          rcases List.mem_cons.mp he with rfl | he
          · exact hlt
          · exact hlt.trans (hm e he)
        rw [if_pos hlt, hnone]
        by_cases hl : l = k
        · simp [hl]
        · simp [List.lookup_cons, hl, beq_eq_false_iff_ne.mpr hl]
      by_cases heq : k = m
      · subst heq
        rw [if_neg hlt, if_pos rfl]
        by_cases hl : l = k <;> simp [hl]
      · rw [if_neg hlt, if_neg heq, List.lookup_cons, ih hrest, List.lookup_cons,
          List.lookup_cons, beq_eq_false_iff_ne.mpr heq]
        by_cases hl : l = k
        · simp [hl, beq_eq_false_iff_ne.mpr heq]
        · simp [hl]

/-- A key has the value it was last given. -/
lemma lookup_normalizeDict (k : String) : ∀ kvs : List (String × Json),
    (Json.normalizeDict kvs).lookup k = (kvs.reverse.lookup k).map Json.normalize
  | [] => by simp [Json.normalizeDict]
  | (l, v) :: rest => by
      rw [Json.normalizeDict, lookup_insertKey (normalizeDict_sorted rest),
        lookup_normalizeDict l rest, lookup_normalizeDict k rest, List.reverse_cons,
        List.lookup_append]
      by_cases hk : k = l
      · subst hk
        cases rest.reverse.lookup k <;> simp
      · simp [hk, List.lookup_cons, beq_eq_false_iff_ne.mpr hk]

lemma lookup_reverse {k : String} {kvs : List (String × Json)}
    (h : (kvs.map Prod.fst).Nodup) : kvs.reverse.lookup k = kvs.lookup k := by
  induction kvs with
  | nil => rfl
  | cons e rest ih =>
      obtain ⟨l, v⟩ := e
      obtain ⟨hl, hrest⟩ := List.nodup_cons.mp h
      rw [List.reverse_cons, List.lookup_append, ih hrest, List.lookup_cons]
      by_cases hk : k = l
      · have hnone : rest.lookup k = none := by
          refine List.lookup_eq_none_iff.mpr fun x hx => ?_
          have hne : k ≠ x.1 := fun hkx => hl (List.mem_map.mpr ⟨x, hx, hkx.symm.trans hk⟩)
          simpa using hne
        subst hk
        simp [hnone]
      · simp [List.lookup_cons, beq_eq_false_iff_ne.mpr hk]

lemma keys_insertKey {k : String} {v : Json} {kvs : List (String × Json)}
    (hk : k ∉ kvs.map Prod.fst) : ((insertKey k v kvs).map Prod.fst).Perm (k :: kvs.map Prod.fst) := by
  induction kvs with
  | nil => simp [insertKey]
  | cons e rest ih =>
      obtain ⟨m, w⟩ := e
      rw [List.map_cons, List.mem_cons, not_or] at hk
      unfold insertKey
      split_ifs with hlt heq
      · exact .refl _
      · exact absurd heq hk.1
      · rw [List.map_cons, List.map_cons]
        exact ((ih hk.2).cons m).trans (.swap k m _)

lemma keys_normalizeDict : ∀ {kvs : List (String × Json)}, (kvs.map Prod.fst).Nodup →
    ((Json.normalizeDict kvs).map Prod.fst).Perm (kvs.map Prod.fst)
  | [], _ => by simp [Json.normalizeDict]
  | (l, v) :: rest, h => by
      obtain ⟨hl, hrest⟩ := List.nodup_cons.mp h
      have hperm := keys_normalizeDict hrest
      rw [Json.normalizeDict]
      exact (keys_insertKey (fun hmem => hl (hperm.mem_iff.mp hmem))).trans (hperm.cons l)

lemma Json.get?_normalize {kvs : List (String × Json)} (h : (kvs.map Prod.fst).Nodup)
    (k : String) : (Json.dict kvs).normalize.get? k = (kvs.lookup k).map Json.normalize := by
  rw [Json.normalize, Json.get?, lookup_normalizeDict, lookup_reverse h]

lemma Json.hasFields_normalize {kvs : List (String × Json)} {names : List String}
    (h : (kvs.map Prod.fst).Nodup) (hnames : (kvs.map Prod.fst).Perm names) :
    (Json.dict kvs).normalize.hasFields names = true := by
  have hperm := (keys_normalizeDict h).trans hnames
  have hlength := hperm.length_eq
  rw [List.length_map] at hlength
  simp only [Json.normalize, Json.hasFields, hlength, decide_true, Bool.true_and,
    List.all_eq_true, decide_eq_true_eq]
  exact fun n hn => hperm.mem_iff.mpr hn

end CivicGate
