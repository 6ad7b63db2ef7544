import CivicGate.Console.AdvisorReport
import CivicGate.Framework.Regex

/-!
# What the reader and the advisor let through as text

`safe_text` of `evidence_console/reader.py` and the pattern of `_text` in
`evidence_console/evidence_advisor_v1.py`.  A text of plain words without the marks of a secret, of
a link or of a path is returned as it is and is not risky (`Plain.passes`).

`\s`, `\b` and `\w` look at Unicode's tables, which are parameters.
-/

namespace CivicGate.Console

/-- What `\w` and `\s` match. -/
structure CharTables where
  isWord : Char → Bool
  isSpace : Char → Bool

section

variable (t : CharTables)

/-- `[^\s"<>]+` with some more characters left out. -/
def visible (others : String) : Regex := (Regex.char fun x => !t.isSpace x && x ∉ others.toList).some

/-- A character of a token: an ASCII letter or digit, or one of the others. -/
def tokenChar (others : String) : Regex := .char fun x => x.isAlphanum || x ∈ others.toList

/-- `[A-Z]` where case is ignored. -/
def letterAnyCase : Regex := .char fun x => x.isAlpha || x ∈ ['İ', 'ı', 'ſ', '\u212a']

def privateKey : Regex :=
  .all [.text "-----BEGIN ", .many true (.char (· ≠ '-')), .text "PRIVATE KEY-----",
    .many false (.char fun _ => true),
    .oneOf [.all [.text "-----END ", .many true (.char (· ≠ '-')), .text "PRIVATE KEY-----"],
      .lineEnd]]

def bearerValue : Regex :=
  .all [.boundary t.isWord, .anyCase "Bearer", (Regex.char t.isSpace).some, visible t ",;\"<>"]

def providerToken : Regex :=
  .all [.boundary t.isWord, .oneOf [.all [.text "sk-", .atLeast 12 (tokenChar "_-")],
    .all [.text "gh", .among "pousr", .text "_", .atLeast 12 (tokenChar "_")],
    .all [.text "github_pat_", .atLeast 12 (tokenChar "_")]]]

def jsonWebToken : Regex :=
  .all [.boundary t.isWord, .text "eyJ", .atLeast 8 (tokenChar "_-"), .text ".",
    (tokenChar "_-").some, .text ".", (tokenChar "_-").some]

def awsKeyId : Regex :=
  .all [.boundary t.isWord, .oneOf [.text "AKIA", .text "ASIA"],
    (Regex.char fun x => x.isUpper || x.isDigit).times 16, .boundary t.isWord]

/-- `"[^"]*"` -/
def quotedBy (quote : Char) : Regex :=
  .all [.char (· = quote), .many true (.char (· ≠ quote)), .char (· = quote)]

def namedCredential : Regex :=
  .all [.boundary t.isWord,
    .oneOf [.all [.anyCase "api", (Regex.among "_ -").optional, .anyCase "key"],
      .anyCase "authorization", .anyCase "password", .anyCase "cookie", .anyCase "token"],
    (Regex.among "\"'").optional, .many true (.char t.isSpace), .among ":=",
    .many true (.char t.isSpace), .oneOf [quotedBy '"', quotedBy '\'', visible t ",;\"<>"]]

def drivePath : Regex :=
  .all [.boundary t.isWord, letterAnyCase, .text ":", .among "\\/", visible t "\"<>"]

def uncPath : Regex :=
  .all [.text "\\\\", visible t "\\", .text "\\", visible t "\"<>"]

def homePath : Regex :=
  .all [.text "/", .oneOf (["Users", "home", "mnt", "var", "tmp", "private", "opt", "srv", "etc",
    "root"].map .text), .text "/", visible t "\"<>"]

def emailAddress : Regex :=
  .all [(tokenChar "._%+-").some, .text "@", (tokenChar ".-").some, .text ".",
    .atLeast 2 (.char Char.isAlpha)]

def webLink : Regex := .all [.text "http", (Regex.text "s").optional, .text "://", visible t "\"<>"]

/-- `patterns` of `safe_text`. -/
def secretPatterns : List Regex :=
  [privateKey, bearerValue t, providerToken t, jsonWebToken t, awsKeyId t, namedCredential t,
    drivePath t, uncPath t, homePath t, emailAddress, webLink t]

/-- The text with every secret replaced. -/
def redact (text : List Char) : List Char :=
  (secretPatterns t).foldl (fun text pattern => pattern.sub "[REDACTED]".toList text) text

/-- `safe_text(value, limit)` -/
def safeText (value : String) (limit : ℕ) : String :=
  let text := (redact t (value.toList.take (max (limit * 4) 4096))).filter fun x =>
    x ∈ ['\n', '\t'] || 32 ≤ x.toNat
  String.ofList (text.take limit ++ if limit < text.length then ['…'] else [])

/-- The pattern of markup, links and absolute paths in `_text`. -/
def riskyPattern : Regex :=
  .oneOf [.among "<>", .all [.oneOf [.anyCase "file", .anyCase "javascript", .anyCase "data"],
      .text ":"],
    .all [.oneOf [.textStart, .char t.isSpace], .text "/",
      (Regex.all [(Regex.char fun x => !t.isSpace x && x ≠ '/').some, .text "/"]).some],
    .all [letterAnyCase, .text ":", .among "\\/"]]

/-- What the patterns find. -/
def readerScreen : TextScreen where
  safeText := safeText t
  risky text := (riskyPattern t).occurs text.toList

end

/-! ## Plain texts -/

/-- Words that every secret of their kind starts with, in lower case. -/
def secretWords : List String :=
  ["--", "bearer", "sk-", "gh", "github_pat_", "eyj", "akia", "asia", "file:", "javascript:", "data:"]

/-- Words for credentials. -/
def credentialWords : List String := ["api", "authorization", "password", "cookie", "token"]

/-- A printable ASCII character that no path, address or tag needs. -/
def isPlainChar (x : Char) : Bool :=
  32 ≤ x.toNat && x.toNat < 128 && x ∉ ['\\', '/', '@', '<', '>']

/-- A text without the marks of a secret. -/
structure Plain (text : List Char) : Prop where
  chars : ∀ x ∈ text, isPlainChar x = true
  words : ∀ w ∈ secretWords, ¬ w.toList <:+: text.map Char.toLower
  credential : (∀ w ∈ credentialWords, ¬ w.toList <:+: text.map Char.toLower) ∨
    ∀ x ∈ text, x ≠ ':' ∧ x ≠ '='

/-- The word, in any case. -/
def IsFolded (word : String) (w : List Char) : Prop :=
  List.Forall₂ (fun x y => foldsTo x y = true) word.toList w

/-- A part of a text that makes it no plain text. -/
def Suspect (w : List Char) : Prop :=
  (∃ x ∈ ['\\', '/', '@', '<', '>'], w = [x]) ∨ ∃ word ∈ secretWords, IsFolded word w

lemma lower_of_folds {x y : Char} (h : foldsTo x y = true) (hascii : y.toNat < 128) :
    y.toLower = x.toLower := by
  simp only [foldsTo, Bool.or_eq_true, Bool.and_eq_true, decide_eq_true_eq] at h
  rcases h with ((h | ⟨-, rfl | rfl⟩) | ⟨-, rfl⟩) | ⟨-, rfl⟩
  · exact h.symm
  all_goals exact absurd hascii (by decide)

/-- What an ASCII text holds in some case it holds in lower case. -/
lemma lower_of_isFolded {word : String} {w text : List Char} (h : IsFolded word w)
    (hwithin : w <:+: text) (hascii : ∀ x ∈ text, x.toNat < 128) :
    word.toList.map Char.toLower <:+: text.map Char.toLower := by
  have hlower : word.toList.map Char.toLower = w.map Char.toLower := by
    have hchars : ∀ x ∈ w, x.toNat < 128 := fun x hx => hascii x (hwithin.subset hx)
    unfold IsFolded at h
    generalize word.toList = v at h
    clear hwithin
    induction h with
    | nil => rfl
    | cons hfold _ ih =>
        obtain ⟨hx, hrest⟩ := List.forall_mem_cons.mp hchars
        rw [List.map_cons, List.map_cons, lower_of_folds hfold hx, ih hrest]
  rw [hlower]
  exact hwithin.map Char.toLower

/-- A plain text holds nothing suspect. -/
lemma Plain.not_suspect {text : List Char} (h : Plain text) {w : List Char} (hw : Suspect w) :
    ¬ w <:+: text := by
  intro hwithin
  have hchar : ∀ x ∈ text, x.toNat < 128 ∧ x ∉ ['\\', '/', '@', '<', '>'] := by
    intro x hx
    have hplain := h.chars x hx
    simp only [isPlainChar, Bool.and_eq_true, decide_eq_true_eq] at hplain
    exact ⟨hplain.1.2, hplain.2⟩
  rcases hw with ⟨x, hx, rfl⟩ | ⟨word, hword, hfolded⟩
  · exact (hchar x (hwithin.subset List.mem_cons_self)).2 hx
  · have hlower := lower_of_isFolded hfolded hwithin fun x hx => (hchar x hx).1
    have hsame : ∀ w ∈ secretWords, w.toList.map Char.toLower = w.toList := by decide
    rw [hsame word hword] at hlower
    exact h.words word hword hlower

/-! ## The patterns and plain texts -/

lemma needs_mark {p : Char → Bool} (h : ∀ x, p x = true → x ∈ ['\\', '/', '@', '<', '>']) :
    (Regex.char p).Needs Suspect := by
  rintro u ⟨x, hx, rfl⟩
  exact ⟨[x], .inl ⟨x, h x hx, rfl⟩, List.infix_refl _⟩

lemma isFolded_of_eq {s : String} {u : List Char} (h : u = s.toList) : IsFolded s u := by
  subst h
  unfold IsFolded
  generalize s.toList = w
  induction w with
  | nil => exact .nil
  | cons x w ih => exact .cons (by simp [foldsTo]) ih

lemma isFolded_congr {s word : String} {w : List Char}
    (h : s.toList.map Char.toLower = word.toList.map Char.toLower) (hw : IsFolded s w) :
    IsFolded word w := by
  unfold IsFolded at hw ⊢
  generalize s.toList = v at h hw
  generalize word.toList = v' at h
  induction hw generalizing v' with
  | nil =>
      obtain rfl := List.map_eq_nil_iff.mp h.symm
      exact .nil
  | cons hfold _ ih =>
      obtain ⟨x, v', rfl, hx, htail⟩ := List.map_eq_cons_iff.mp h.symm
      refine .cons ?_ (ih _ htail.symm)
      simp only [foldsTo, hx]
      exact hfold

/-- The text of a pattern starts a secret of its kind. -/
lemma needs_word {s : String} (word : String) (hword : word ∈ secretWords) {w : List Char}
    (hpart : w <:+: s.toList) (hw : w = word.toList) : (Regex.text s).Needs Suspect := by
  intro u hu
  rw [accepts_text.mp hu]
  exact ⟨w, .inr ⟨word, hword, isFolded_of_eq hw⟩, hpart⟩

lemma needs_wordText {s : String} (word : String) (hword : word ∈ secretWords)
    (h : s.toList.map Char.toLower = word.toList.map Char.toLower) :
    (Regex.text s).Needs Suspect := by
  intro u hu
  exact ⟨u, .inr ⟨word, hword, isFolded_congr h (isFolded_of_eq (accepts_text.mp hu))⟩,
    List.infix_refl u⟩

lemma needs_wordAnyCase {s : String} (word : String) (hword : word ∈ secretWords)
    (h : s.toList.map Char.toLower = word.toList.map Char.toLower) :
    (Regex.anyCase s).Needs Suspect :=
  fun u hu => ⟨u, .inr ⟨word, hword, isFolded_congr h (accepts_chars.mp hu)⟩, List.infix_refl u⟩

lemma needs_markText {s : String} {x : Char} (hx : x ∈ ['\\', '/', '@', '<', '>'])
    (hs : x ∈ s.toList) : (Regex.text s).Needs Suspect := by
  intro u hu
  rw [accepts_text.mp hu]
  exact ⟨[x], .inl ⟨x, hx, rfl⟩, (List.singleton_infix_iff x _).mpr hs⟩

lemma needs_slash : (Regex.among "\\/").Needs Suspect :=
  needs_mark fun x hx => by
    have hmem : x ∈ ['\\', '/'] := of_decide_eq_true hx
    exact List.mem_append_left ['@', '<', '>'] hmem

lemma privateKey_needs : privateKey.Needs Suspect :=
  (needs_word "--" (by decide) (by decide) rfl).seq_left

section

variable (t : CharTables)

lemma bearerValue_needs : (bearerValue t).Needs Suspect :=
  (needs_wordAnyCase "bearer" (by decide) (by decide)).seq_left.seq_right

lemma providerToken_needs : (providerToken t).Needs Suspect := by
  have hsk : (Regex.text "sk-").Needs Suspect := needs_wordText "sk-" (by decide) rfl
  have hgh : (Regex.text "gh").Needs Suspect := needs_wordText "gh" (by decide) rfl
  have hpat : (Regex.text "github_pat_").Needs Suspect :=
    needs_wordText "github_pat_" (by decide) rfl
  exact (hsk.seq_left.alt (hgh.seq_left.alt hpat.seq_left)).seq_right

lemma jsonWebToken_needs : (jsonWebToken t).Needs Suspect :=
  (needs_wordText "eyj" (by decide) (by decide)).seq_left.seq_right

lemma awsKeyId_needs : (awsKeyId t).Needs Suspect := by
  have hfirst : (Regex.text "AKIA").Needs Suspect :=
    needs_wordText "akia" (by decide) (by decide)
  have hsecond : (Regex.text "ASIA").Needs Suspect :=
    needs_wordText "asia" (by decide) (by decide)
  exact (hfirst.alt hsecond).seq_left.seq_right

lemma drivePath_needs : (drivePath t).Needs Suspect :=
  needs_slash.seq_left.seq_right.seq_right.seq_right

lemma uncPath_needs : (uncPath t).Needs Suspect :=
  (needs_markText (x := '\\') (by decide) (by decide)).seq_left

lemma homePath_needs : (homePath t).Needs Suspect :=
  (needs_markText (x := '/') (by decide) (by decide)).seq_left

lemma emailAddress_needs : emailAddress.Needs Suspect :=
  (needs_markText (x := '@') (by decide) (by decide)).seq_left.seq_right

lemma webLink_needs : (webLink t).Needs Suspect :=
  (needs_markText (x := '/') (by decide) (by decide)).seq_left.seq_right.seq_right

lemma riskyPattern_needs : (riskyPattern t).Needs Suspect := by
  have hmarkup : (Regex.among "<>").Needs Suspect := needs_mark fun x hx => by
    have hmem : x ∈ ['<', '>'] := of_decide_eq_true hx
    exact List.mem_append_right ['\\', '/', '@'] hmem
  have hscheme : (Regex.all [.oneOf [.anyCase "file", .anyCase "javascript", .anyCase "data"],
      .text ":"]).Needs Suspect := by
    have hword : ∀ (s : String) (word : String), word ∈ secretWords →
        s.toList.map Char.toLower ++ [':'] = word.toList.map Char.toLower →
        (Regex.seq (.anyCase s) (.text ":")).Needs Suspect := by
      rintro s word hword hs _ ⟨v, w, hv, hw, rfl⟩
      refine ⟨v ++ w, .inr ⟨word, hword, ?_⟩, List.infix_refl _⟩
      have hboth : IsFolded (s ++ ":") (v ++ w) := by
        unfold IsFolded
        rw [String.toList_append]
        exact List.rel_append (accepts_chars.mp hv) (isFolded_of_eq (accepts_text.mp hw))
      refine isFolded_congr ?_ hboth
      rw [String.toList_append, List.map_append]
      exact hs
    rintro _ ⟨v, w, hv | hv | hv, hw, rfl⟩
    · exact hword "file" "file:" (by decide) (by decide) _ ⟨v, w, hv, hw, rfl⟩
    · exact hword "javascript" "javascript:" (by decide) (by decide) _ ⟨v, w, hv, hw, rfl⟩
    · exact hword "data" "data:" (by decide) (by decide) _ ⟨v, w, hv, hw, rfl⟩
  have hpath : (Regex.text "/").Needs Suspect :=
    needs_markText (x := '/') (by decide) (by decide)
  exact hmarkup.alt (hscheme.alt (hpath.seq_left.seq_right.alt needs_slash.seq_right.seq_right))

variable {text : List Char} (h : Plain text)

include h

/-- No credential is named in a plain text. -/
lemma Plain.not_namedCredential : (namedCredential t).occurs text = false := by
  rcases h.credential with hwords | hmarks
  · have hneeds : (namedCredential t).Needs fun w => ∃ word ∈ credentialWords, IsFolded word w := by
      have hword : ∀ s ∈ credentialWords,
          (Regex.anyCase s).Needs fun w => ∃ word ∈ credentialWords, IsFolded word w :=
        fun s hs u hu => ⟨u, ⟨s, hs, accepts_chars.mp hu⟩, List.infix_refl u⟩
      exact (((hword "api" (by decide)).seq_left.alt ((hword "authorization" (by decide)).alt
        ((hword "password" (by decide)).alt ((hword "cookie" (by decide)).alt
          (hword "token" (by decide)))))).seq_left).seq_right
    refine not_occurs_of_needs hneeds ?_
    rintro w ⟨word, hword, hfolded⟩ hwithin
    have hascii : ∀ x ∈ text, x.toNat < 128 := by
      intro x hx
      have hplain := h.chars x hx
      simp only [isPlainChar, Bool.and_eq_true, decide_eq_true_eq] at hplain
      exact hplain.1.2
    have hlower := lower_of_isFolded hfolded hwithin hascii
    have hsame : ∀ w ∈ credentialWords, w.toList.map Char.toLower = w.toList := by decide
    rw [hsame word hword] at hlower
    exact hwords word hword hlower
  · have hneeds : (namedCredential t).Needs fun w => ∃ x ∈ [':', '='], w = [x] := by
      have hmark : (Regex.among ":=").Needs fun w => ∃ x ∈ [':', '='], w = [x] := by
        rintro u ⟨x, hx, rfl⟩
        exact ⟨[x], ⟨x, of_decide_eq_true hx, rfl⟩, List.infix_refl _⟩
      exact hmark.seq_left.seq_right.seq_right.seq_right.seq_right
    refine not_occurs_of_needs hneeds ?_
    rintro w ⟨x, hx, rfl⟩ hwithin
    have hmem := hmarks x ((List.singleton_infix_iff x _).mp hwithin)
    rcases List.mem_pair.mp hx with rfl | rfl
    · exact hmem.1 rfl
    · exact hmem.2 rfl

/-- No secret is found in a plain text. -/
lemma Plain.not_secret : ∀ r ∈ secretPatterns t, r.occurs text = false := by
  have hneeds : ∀ r : Regex, r.Needs Suspect → r.occurs text = false :=
    fun r hr => not_occurs_of_needs hr fun w hw => h.not_suspect hw
  simp only [secretPatterns, List.forall_mem_cons]
  exact ⟨hneeds _ privateKey_needs, hneeds _ (bearerValue_needs t),
    hneeds _ (providerToken_needs t), hneeds _ (jsonWebToken_needs t), hneeds _ (awsKeyId_needs t),
    h.not_namedCredential t, hneeds _ (drivePath_needs t), hneeds _ (uncPath_needs t),
    hneeds _ (homePath_needs t), hneeds _ emailAddress_needs, hneeds _ (webLink_needs t), nofun⟩

lemma Plain.redact_eq : redact t text = text := by
  have hsecret := h.not_secret t
  unfold redact
  generalize secretPatterns t = patterns at hsecret
  induction patterns with
  | nil => rfl
  | cons r rest ih =>
      obtain ⟨hr, hrest⟩ := List.forall_mem_cons.mp hsecret
      rw [List.foldl_cons, sub_of_not_occurs hr]
      exact ih hrest

end

/-- A plain text within the limit is let through as it is. -/
lemma Plain.passes {s : String} (t : CharTables) (h : Plain s.toList) {limit : ℕ}
    (hlimit : s.length ≤ limit) :
    safeText t s limit = s ∧ (readerScreen t).risky s = false := by
  constructor
  · have hlength : s.toList.length ≤ max (limit * 4) 4096 := by
      rw [String.length_toList]
      omega
    have hkept : (s.toList.filter fun x => x ∈ ['\n', '\t'] || 32 ≤ x.toNat) = s.toList := by
      refine List.filter_eq_self.mpr fun x hx => ?_
      have hplain := h.chars x hx
      simp only [isPlainChar, Bool.and_eq_true] at hplain
      rw [hplain.1.1, Bool.or_true]
    have hshort : ¬ limit < s.toList.length := by
      rw [String.length_toList]
      omega
    rw [safeText, List.take_of_length_le hlength, h.redact_eq, hkept, if_neg hshort,
      List.append_nil, List.take_of_length_le (by rw [String.length_toList]; omega),
      String.ofList_toList]
  · exact not_occurs_of_needs (riskyPattern_needs t) fun w hw => h.not_suspect hw

end CivicGate.Console
