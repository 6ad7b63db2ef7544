import CivicGate.Framework.Json.Text
import Mathlib.Data.BitVec

/-!
# SHA-256

`sha256Hex text` is `hashlib.sha256(text.encode("utf-8")).hexdigest()`.  The developments use
two facts about it, that it is a function and that it prints 64 lowercase hexadecimal digits
(`isSha256Hex_sha256Hex`); nothing rests on collisions being hard to find.
-/

namespace CivicGate

/-! ## The compression function -/

/-- A 32-bit word. -/
abbrev Word := BitVec 32

/-- The round constants. -/
def roundConstants : List Word :=
  [0x428a2f98, 0x71374491, 0xb5c0fbcf, 0xe9b5dba5, 0x3956c25b, 0x59f111f1, 0x923f82a4, 0xab1c5ed5,
    0xd807aa98, 0x12835b01, 0x243185be, 0x550c7dc3, 0x72be5d74, 0x80deb1fe, 0x9bdc06a7, 0xc19bf174,
    0xe49b69c1, 0xefbe4786, 0x0fc19dc6, 0x240ca1cc, 0x2de92c6f, 0x4a7484aa, 0x5cb0a9dc, 0x76f988da,
    0x983e5152, 0xa831c66d, 0xb00327c8, 0xbf597fc7, 0xc6e00bf3, 0xd5a79147, 0x06ca6351, 0x14292967,
    0x27b70a85, 0x2e1b2138, 0x4d2c6dfc, 0x53380d13, 0x650a7354, 0x766a0abb, 0x81c2c92e, 0x92722c85,
    0xa2bfe8a1, 0xa81a664b, 0xc24b8b70, 0xc76c51a3, 0xd192e819, 0xd6990624, 0xf40e3585, 0x106aa070,
    0x19a4c116, 0x1e376c08, 0x2748774c, 0x34b0bcb5, 0x391c0cb3, 0x4ed8aa4a, 0x5b9cca4f, 0x682e6ff3,
    0x748f82ee, 0x78a5636f, 0x84c87814, 0x8cc70208, 0x90befffa, 0xa4506ceb, 0xbef9a3f7, 0xc67178f2]

/-- The eight words of the hash state. -/
structure HashState where
  a : Word
  b : Word
  c : Word
  d : Word
  e : Word
  f : Word
  g : Word
  h : Word
  deriving DecidableEq

/-- The initial hash state. -/
def HashState.initial : HashState :=
  ⟨0x6a09e667, 0xbb67ae85, 0x3c6ef372, 0xa54ff53a, 0x510e527f, 0x9b05688c, 0x1f83d9ab, 0x5be0cd19⟩

/-- The message schedule, latest word first, extended by `n` words. -/
def extendSchedule : ℕ → List Word → List Word
  | 0, ws => ws
  | n + 1, ws =>
    let w (i : ℕ) : Word := ws.getD (i - 1) 0
    let s0 := (w 15).rotateRight 7 ^^^ (w 15).rotateRight 18 ^^^ (w 15) >>> 3
    let s1 := (w 2).rotateRight 17 ^^^ (w 2).rotateRight 19 ^^^ (w 2) >>> 10
    extendSchedule n ((w 16 + s0 + w 7 + s1) :: ws)

/-- One round. -/
def hashRound (s : HashState) (k w : Word) : HashState :=
  let s1 := s.e.rotateRight 6 ^^^ s.e.rotateRight 11 ^^^ s.e.rotateRight 25
  let choice := (s.e &&& s.f) ^^^ (~~~s.e &&& s.g)
  let t1 := s.h + s1 + choice + k + w
  let s0 := s.a.rotateRight 2 ^^^ s.a.rotateRight 13 ^^^ s.a.rotateRight 22
  let majority := (s.a &&& s.b) ^^^ (s.a &&& s.c) ^^^ (s.b &&& s.c)
  ⟨t1 + (s0 + majority), s.a, s.b, s.c, s.d + t1, s.e, s.f, s.g⟩

/-- One block of sixteen words. -/
def hashBlock (s : HashState) (block : List Word) : HashState :=
  let ws := (extendSchedule 48 block.reverse).reverse
  let t := (roundConstants.zip ws).foldl (fun t p => hashRound t p.1 p.2) s
  ⟨s.a + t.a, s.b + t.b, s.c + t.c, s.d + t.d, s.e + t.e, s.f + t.f, s.g + t.g, s.h + t.h⟩

/-! ## Messages -/

/-- Four bytes as a word, the most significant first. -/
def wordsOfBytes : List ℕ → List Word
  | a :: b :: c :: d :: rest =>
    BitVec.ofNat 32 (a * 16777216 + b * 65536 + c * 256 + d) :: wordsOfBytes rest
  | _ => []

/-- The message with its padding: a one bit, zeros, and the length in bits. -/
def padMessage (bytes : List ℕ) : List ℕ :=
  let bits := bytes.length * 8
  bytes ++ 128 :: List.replicate ((119 - bytes.length % 64) % 64) 0 ++
    (List.range 8).map fun i => bits / 256 ^ (7 - i) % 256

/-- Hash `n` blocks. -/
def hashBlocks : ℕ → HashState → List Word → HashState
  | 0, s, _ => s
  | n + 1, s, ws => hashBlocks n (hashBlock s (ws.take 16)) (ws.drop 16)

/-- The UTF-8 encoding of a text. -/
def utf8 (text : String) : List ℕ :=
  text.toList.flatMap fun c => (String.utf8EncodeChar c).map UInt8.toNat

/-- The eight hexadecimal digits of a word. -/
def hexWord (w : Word) : List Char :=
  [7, 6, 5, 4, 3, 2, 1, 0].map fun i => hexDigit (w.toNat / 16 ^ i % 16)

/-- `hashlib.sha256(text.encode("utf-8")).hexdigest()` -/
def sha256Hex (text : String) : String :=
  let ws := wordsOfBytes (padMessage (utf8 text))
  let s := hashBlocks (ws.length / 16) HashState.initial ws
  String.ofList ([s.a, s.b, s.c, s.d, s.e, s.f, s.g, s.h].flatMap hexWord)

/-! ## Digest texts -/

/-- `re.fullmatch("[0-9a-f]{64}", text)` -/
def isSha256Hex (text : String) : Bool :=
  text.toList.length = 64 && text.toList.all fun c => c.isDigit || ('a' ≤ c && c ≤ 'f')

/-- A digest has 64 digits. -/
lemma sha256Hex_digits (text : String) {p : Char → Bool} (hp : ∀ n < 16, p (hexDigit n) = true) :
    (sha256Hex text).toList.length = 64 ∧ (sha256Hex text).toList.all p = true := by
  simp only [sha256Hex, String.toList_ofList, List.all_eq_true]
  refine ⟨by simp [hexWord], fun c hc => ?_⟩
  obtain ⟨w, -, hc⟩ := List.mem_flatMap.mp hc
  obtain ⟨i, -, rfl⟩ := List.mem_map.mp hc
  exact hp _ (Nat.mod_lt _ (by decide))

theorem isSha256Hex_sha256Hex (text : String) : isSha256Hex (sha256Hex text) = true := by
  obtain ⟨hlength, hall⟩ := @sha256Hex_digits text
    (fun c => c.isDigit || ('a' ≤ c && c ≤ 'f')) (by decide)
  rw [isSha256Hex, hall, Bool.and_true, decide_eq_true hlength]

example : sha256Hex "abc" =
    "ba7816bf8f01cfea414140de5dae2223b00361a396177a9cb410ff61f20015ad" := by decide +kernel

end CivicGate
