import Mathlib.Data.List.Forall2
import Mathlib.Data.List.Infix
import Mathlib.Data.List.TakeDrop

/-!
# Regular expressions by backtracking

`Regex.ends` lists where a match that starts at a cursor may end, in the order in which a
backtracking matcher tries the ends; its head is the match.  `scan` goes through a text from left
to right and takes the first match it meets, as `re.sub`, `re.split` and `re.findall` do, and
`Regex.occursAt` is `re.search` as a test.

What an expression accepts, its look-arounds aside, is `Regex.Accepts`: every match is of an
accepted text (`accepts_of_mem_ends`), so an expression whose texts all need a character or a word
does not occur where that is missing (`not_occurs_of_required`).
-/

namespace CivicGate

/-- A place in a text: what stands before it, nearest first, and what comes after. -/
structure Cursor where
  before : List Char
  after : List Char

/-- The start of a text. -/
def Cursor.start (text : List Char) : Cursor := ⟨[], text⟩

/-- The cursor after some more characters. -/
def Cursor.Reaches (c : Cursor) (u : List Char) (d : Cursor) : Prop :=
  c.after = u ++ d.after ∧ d.before = u.reverse ++ c.before

lemma Cursor.Reaches.refl (c : Cursor) : c.Reaches [] c := ⟨rfl, rfl⟩

lemma Cursor.Reaches.trans {c d e : Cursor} {u v : List Char} (h : c.Reaches u d)
    (h' : d.Reaches v e) : c.Reaches (u ++ v) e := by
  constructor
  · rw [h.1, h'.1, List.append_assoc]
  · rw [h'.2, h.2, List.reverse_append, List.append_assoc]

lemma Cursor.Reaches.eq {c d e : Cursor} {u : List Char} (h : c.Reaches u d)
    (h' : c.Reaches u e) : d = e := by
  obtain ⟨before, after⟩ := d
  obtain ⟨before', after'⟩ := e
  obtain rfl := List.append_cancel_left (h.1.symm.trans h'.1)
  obtain rfl := h.2.trans h'.2.symm
  rfl

/-- A regular expression without capturing groups. -/
inductive Regex
  | char (p : Char → Bool)
  /-- A condition on the place, such as a word boundary. -/
  | look (p : Cursor → Bool)
  | empty
  | seq (r s : Regex)
  | alt (r s : Regex)
  /-- `r*`, or `r*?` if not greedy. -/
  | many (greedy : Bool) (r : Regex)

/-- The ends of at most so many rounds, each of which takes a character. -/
def manyEnds (step : Cursor → List Cursor) (greedy : Bool) : ℕ → Cursor → List Cursor
  | 0, c => [c]
  | n + 1, c =>
    let more := ((step c).filter fun d => d.after.length < c.after.length).flatMap
      (manyEnds step greedy n)
    if greedy then more ++ [c] else c :: more

/-- Where a match from the cursor may end, the preferred end first. -/
def Regex.ends : Regex → Cursor → List Cursor
  | .char p, c =>
    match c.after with
    | x :: rest => if p x then [⟨x :: c.before, rest⟩] else []
    | [] => []
  | .look p, c => if p c then [c] else []
  | .empty, c => [c]
  | .seq r s, c => (r.ends c).flatMap s.ends
  | .alt r s, c => r.ends c ++ s.ends c
  | .many greedy r, c => manyEnds r.ends greedy c.after.length c

/-- The match at the cursor, by its end. -/
def Regex.match? (r : Regex) (c : Cursor) : Option Cursor := (r.ends c).head?

/-- The expression matches at the cursor or later. -/
def Regex.occursAt (r : Regex) : List Char → List Char → Bool
  | before, [] => (r.match? ⟨before, []⟩).isSome
  | before, x :: rest => (r.match? ⟨before, x :: rest⟩).isSome || r.occursAt (x :: before) rest

/-- `re.search` finds a match. -/
def Regex.occurs (r : Regex) (text : List Char) : Bool := r.occursAt [] text

/-! ## Notation -/

/-- The characters of a text, each as in `p`. -/
def Regex.chars (p : Char → Char → Bool) : List Char → Regex
  | [] => .empty
  | x :: rest => .seq (.char (p x)) (Regex.chars p rest)

/-- The text itself. -/
def Regex.text (s : String) : Regex := .chars (fun x y => x = y) s.toList

/-- The characters that a letter of a pattern stands for where case is ignored.  Three letters have
one outside of ASCII, and `i` has two. -/
def foldsTo (x y : Char) : Bool :=
  x.toLower = y.toLower || (x.toLower = 'i' && (y = 'İ' || y = 'ı')) ||
    (x.toLower = 's' && y = 'ſ') || (x.toLower = 'k' && y = '\u212a')

/-- The text, in any case. -/
def Regex.anyCase (s : String) : Regex := .chars foldsTo s.toList

/-- A character of the text. -/
def Regex.among (s : String) : Regex := .char fun x => x ∈ s.toList

/-- One of the expressions, the first that goes through. -/
def Regex.oneOf : List Regex → Regex
  | [] => .char fun _ => false
  | [r] => r
  | r :: rs => .alt r (Regex.oneOf rs)

/-- The expressions one after another. -/
def Regex.all : List Regex → Regex
  | [] => .empty
  | [r] => r
  | r :: rs => .seq r (Regex.all rs)

/-- `r?` -/
def Regex.optional (r : Regex) : Regex := .alt r .empty

/-- `r+` -/
def Regex.some (r : Regex) : Regex := .seq r (.many true r)

/-- `r{n}` -/
def Regex.times (r : Regex) : ℕ → Regex
  | 0 => .empty
  | n + 1 => .seq r (r.times n)

/-- `r{n,}` -/
def Regex.atLeast (n : ℕ) (r : Regex) : Regex := .seq (r.times n) (.many true r)

/-- `\b` -/
def Regex.boundary (isWord : Char → Bool) : Regex :=
  .look fun c => (c.before.head?.any isWord) != (c.after.head?.any isWord)

/-- `$` -/
def Regex.lineEnd : Regex := .look fun c => c.after = [] || c.after = ['\n']

/-- `^` -/
def Regex.textStart : Regex := .look fun c => c.before = []

/-! ## Ends -/

lemma mem_manyEnds_zero {step : Cursor → List Cursor} {greedy : Bool} {c d : Cursor} :
    d ∈ manyEnds step greedy 0 c ↔ d = c := List.mem_singleton

lemma mem_manyEnds_succ {step : Cursor → List Cursor} {greedy : Bool} {n : ℕ} {c d : Cursor} :
    d ∈ manyEnds step greedy (n + 1) c ↔ d = c ∨
      ∃ m ∈ step c, m.after.length < c.after.length ∧ d ∈ manyEnds step greedy n m := by
  have hmore : d ∈ ((step c).filter fun d => d.after.length < c.after.length).flatMap
      (manyEnds step greedy n) ↔
        ∃ m ∈ step c, m.after.length < c.after.length ∧ d ∈ manyEnds step greedy n m := by
    simp only [List.mem_flatMap, List.mem_filter, decide_eq_true_eq, and_assoc]
  rw [manyEnds]
  cases greedy with
  | true => rw [if_pos rfl, List.mem_append, hmore, List.mem_singleton, or_comm]
  | false => rw [if_neg Bool.false_ne_true, List.mem_cons, hmore]

section

variable {r s : Regex} {c d : Cursor}

lemma mem_ends_char {p : Char → Bool} :
    d ∈ (Regex.char p).ends c ↔ ∃ x, p x = true ∧ c.Reaches [x] d := by
  obtain ⟨before, after⟩ := c
  cases after with
  | nil =>
      refine iff_of_false List.not_mem_nil ?_
      rintro ⟨x, -, h, -⟩
      cases h
  | cons x rest =>
      show d ∈ (if p x then [⟨x :: before, rest⟩] else []) ↔ _
      by_cases hp : p x = true
      · rw [if_pos hp, List.mem_singleton]
        constructor
        · rintro rfl
          exact ⟨x, hp, rfl, rfl⟩
        · rintro ⟨y, -, hafter, hbefore⟩
          obtain ⟨rfl, hrest⟩ := List.cons_eq_cons.mp hafter
          exact Cursor.Reaches.eq ⟨hafter, hbefore⟩ ⟨rfl, rfl⟩
      · rw [if_neg hp]
        refine iff_of_false List.not_mem_nil ?_
        rintro ⟨y, hy, hafter, -⟩
        obtain ⟨rfl, -⟩ := List.cons_eq_cons.mp hafter
        exact hp hy

lemma mem_ends_look {p : Cursor → Bool} : d ∈ (Regex.look p).ends c ↔ p c = true ∧ d = c := by
  rw [Regex.ends]
  split_ifs with hp <;> simp [hp]

lemma mem_ends_empty : d ∈ Regex.empty.ends c ↔ d = c := List.mem_singleton

lemma mem_ends_seq : d ∈ (Regex.seq r s).ends c ↔ ∃ m ∈ r.ends c, d ∈ s.ends m :=
  List.mem_flatMap

lemma mem_ends_alt : d ∈ (Regex.alt r s).ends c ↔ d ∈ r.ends c ∨ d ∈ s.ends c :=
  List.mem_append

end

/-! ## Accepted texts -/

/-- The text is accepted where every look-around holds. -/
def Regex.Accepts : Regex → List Char → Prop
  | .char p, u => ∃ x, p x = true ∧ u = [x]
  | .look _, u => u = []
  | .empty, u => u = []
  | .seq r s, u => ∃ v w, r.Accepts v ∧ s.Accepts w ∧ u = v ++ w
  | .alt r s, u => r.Accepts u ∨ s.Accepts u
  | .many _ r, u => ∃ us : List (List Char), (∀ v ∈ us, r.Accepts v) ∧ u = us.flatten

/-- A match goes over an accepted text. -/
lemma accepts_of_mem_ends {r : Regex} {c d : Cursor} (h : d ∈ r.ends c) :
    ∃ u, r.Accepts u ∧ c.Reaches u d := by
  induction r generalizing c d with
  | char p =>
      obtain ⟨x, hx, hreaches⟩ := mem_ends_char.mp h
      exact ⟨[x], ⟨x, hx, rfl⟩, hreaches⟩
  | look p =>
      obtain ⟨-, rfl⟩ := mem_ends_look.mp h
      exact ⟨[], rfl, .refl d⟩
  | empty =>
      obtain rfl := mem_ends_empty.mp h
      exact ⟨[], rfl, .refl d⟩
  | seq r s ihr ihs =>
      obtain ⟨m, hm, hd⟩ := mem_ends_seq.mp h
      obtain ⟨v, hv, hfirst⟩ := ihr hm
      obtain ⟨w, hw, hsecond⟩ := ihs hd
      exact ⟨v ++ w, ⟨v, w, hv, hw, rfl⟩, hfirst.trans hsecond⟩
  | alt r s ihr ihs =>
      rcases mem_ends_alt.mp h with h | h
      · obtain ⟨u, hu, hreaches⟩ := ihr h
        exact ⟨u, .inl hu, hreaches⟩
      · obtain ⟨u, hu, hreaches⟩ := ihs h
        exact ⟨u, .inr hu, hreaches⟩
  | many greedy r ih =>
      have hrounds : ∀ n c, d ∈ manyEnds r.ends greedy n c →
          ∃ us : List (List Char), (∀ v ∈ us, r.Accepts v) ∧ c.Reaches us.flatten d := by
        intro n
        induction n with
        | zero =>
            intro c hd
            obtain rfl := mem_manyEnds_zero.mp hd
            exact ⟨[], nofun, .refl d⟩
        | succ n ihn =>
            intro c hd
            rcases mem_manyEnds_succ.mp hd with rfl | ⟨m, hm, -, hd⟩
            · exact ⟨[], nofun, .refl d⟩
            · obtain ⟨v, hv, hfirst⟩ := ih hm
              obtain ⟨us, hus, hrest⟩ := ihn m hd
              exact ⟨v :: us, List.forall_mem_cons.mpr ⟨hv, hus⟩, hfirst.trans hrest⟩
      obtain ⟨us, hus, hreaches⟩ := hrounds _ c h
      exact ⟨us.flatten, ⟨us, hus, rfl⟩, hreaches⟩

/-- What occurs is accepted somewhere in the text. -/
lemma exists_accepted_of_occursAt {r : Regex} {before text : List Char}
    (h : r.occursAt before text = true) : ∃ u, r.Accepts u ∧ u <:+: text := by
  have hmatch : ∀ {before text : List Char}, (r.match? ⟨before, text⟩).isSome = true →
      ∃ u, r.Accepts u ∧ u <:+: text := by
    intro before text hsome
    obtain ⟨d, hd⟩ := Option.isSome_iff_exists.mp hsome
    obtain ⟨u, hu, hafter, -⟩ := accepts_of_mem_ends (List.mem_of_mem_head? hd)
    have htext : text = u ++ d.after := hafter
    exact ⟨u, hu, [], d.after, by rw [htext, List.nil_append]⟩
  induction text generalizing before with
  | nil => exact hmatch h
  | cons x rest ih =>
      rcases Bool.or_eq_true_iff.mp h with hfirst | hrest
      · exact hmatch hfirst
      · obtain ⟨u, hu, hwithin⟩ := ih hrest
        exact ⟨u, hu, hwithin.trans (List.suffix_cons x rest).isInfix⟩

/-! ## What a text needs to be accepted -/

/-- Every accepted text has a part in `S`. -/
def Regex.Needs (r : Regex) (S : List Char → Prop) : Prop := ∀ u, r.Accepts u → ∃ w, S w ∧ w <:+: u

variable {r s : Regex} {S : List Char → Prop}

lemma Regex.Needs.seq_left (h : r.Needs S) : (Regex.seq r s).Needs S := by
  rintro _ ⟨v, w, hv, -, rfl⟩
  obtain ⟨part, hpart, hwithin⟩ := h v hv
  exact ⟨part, hpart, hwithin.trans (List.prefix_append v w).isInfix⟩

lemma Regex.Needs.seq_right (h : s.Needs S) : (Regex.seq r s).Needs S := by
  rintro _ ⟨v, w, -, hw, rfl⟩
  obtain ⟨part, hpart, hwithin⟩ := h w hw
  exact ⟨part, hpart, hwithin.trans (List.suffix_append v w).isInfix⟩

lemma Regex.Needs.alt (hr : r.Needs S) (hs : s.Needs S) : (Regex.alt r s).Needs S := by
  rintro u (hu | hu)
  · exact hr u hu
  · exact hs u hu

/-- An expression does not occur where no part is found that it needs. -/
lemma not_occurs_of_needs (h : r.Needs S) {text : List Char} (htext : ∀ w, S w → ¬ w <:+: text) :
    r.occurs text = false := by
  rw [← Bool.not_eq_true]
  intro hoccurs
  obtain ⟨u, hu, hwithin⟩ := exists_accepted_of_occursAt hoccurs
  obtain ⟨w, hw, hpart⟩ := h u hu
  exact htext w hw (hpart.trans hwithin)

/-! ## Scanning -/

/-- A text from left to right: at each place what `step` finds there, if it takes a character, and
else the character. -/
def scan {α : Type} (step : Cursor → Option (α × Cursor)) : ℕ → Cursor → List (Char ⊕ α)
  | 0, _ => []
  | n + 1, c =>
    match (step c).filter fun found => found.2.after.length < c.after.length with
    | some (a, d) => .inr a :: scan step n d
    | none =>
      match c.after with
      | [] => []
      | x :: rest => .inl x :: scan step n ⟨x :: c.before, rest⟩

/-- `re.sub` with a text for each match. -/
def Regex.sub (r : Regex) (replacement : List Char) (text : List Char) : List Char :=
  (scan (fun c => (r.match? c).map fun d => (replacement, d)) text.length (.start text)).flatMap
    (Sum.elim (fun x => [x]) id)

lemma scan_of_not_occurs {r : Regex} {replacement before text : List Char} {n : ℕ}
    (h : r.occursAt before text = false) (hn : text.length ≤ n) :
    scan (fun c => (r.match? c).map fun d => (replacement, d)) n ⟨before, text⟩ =
      text.map Sum.inl := by
  have hstep : ∀ {before text}, (r.match? ⟨before, text⟩).isSome = false →
      ((r.match? ⟨before, text⟩).map fun d => (replacement, d)) = none := by
    intro before text hnone
    rw [Option.isSome_eq_false_iff, Option.isNone_iff_eq_none] at hnone
    rw [hnone, Option.map_none]
  induction text generalizing before n with
  | nil =>
      cases n with
      | zero => rfl
      | succ n =>
          rw [scan, hstep h]
          rfl
  | cons x rest ih =>
      cases n with
      | zero => exact absurd hn (by simp)
      | succ n =>
          obtain ⟨hfirst, hrest⟩ := Bool.or_eq_false_iff.mp h
          rw [scan, hstep hfirst]
          exact congrArg (Sum.inl x :: ·) (ih hrest (Nat.le_of_succ_le_succ hn))

/-- Where the expression does not occur nothing is replaced. -/
lemma sub_of_not_occurs {r : Regex} {replacement text : List Char} (h : r.occurs text = false) :
    r.sub replacement text = text := by
  rw [Regex.sub, Cursor.start, scan_of_not_occurs h (le_refl _), List.flatMap_map]
  exact List.flatMap_singleton' text

/-! ## Words -/

lemma accepts_chars {p : Char → Char → Bool} {w u : List Char} :
    (Regex.chars p w).Accepts u ↔ List.Forall₂ (fun x y => p x y = true) w u := by
  induction w generalizing u with
  | nil => rw [List.forall₂_nil_left_iff]; exact Iff.rfl
  | cons x w ih =>
      rw [List.forall₂_cons_left_iff]
      constructor
      · rintro ⟨_, v, ⟨y, hy, rfl⟩, hv, rfl⟩
        exact ⟨y, v, hy, ih.mp hv, rfl⟩
      · rintro ⟨y, v, hy, hv, rfl⟩
        exact ⟨[y], v, ⟨y, hy, rfl⟩, ih.mpr hv, rfl⟩

lemma accepts_text {s : String} {u : List Char} : (Regex.text s).Accepts u ↔ u = s.toList := by
  have heq : (fun x y : Char => decide (x = y) = true) = Eq := by
    funext x y
    exact propext decide_eq_true_iff
  rw [Regex.text, accepts_chars, heq, List.forall₂_eq_eq_eq, eq_comm]

end CivicGate
