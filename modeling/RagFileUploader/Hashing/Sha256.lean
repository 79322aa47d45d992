import Mathlib

/-!
# SHA-256

The hash function, on bytes, with words as natural numbers below `2 ^ 32`.  The message is padded
to a whole number of blocks of sixteen words; every block drives sixty-four rounds on a state of
eight words, with the message schedule kept as a sliding window of sixteen words.

Users of the hash only rely on the shape of `hexdigest`: sixty-four lowercase hexadecimal digits
(`length_hexdigest`, `hexdigest_digits`).
-/

namespace Hashing.Sha256

/-- Words are taken modulo `wordSize`. -/
def wordSize : ℕ := 2 ^ 32

/-- The round constants. -/
def roundConstants : List ℕ :=
  [0x428a2f98, 0x71374491, 0xb5c0fbcf, 0xe9b5dba5, 0x3956c25b, 0x59f111f1, 0x923f82a4, 0xab1c5ed5,
   0xd807aa98, 0x12835b01, 0x243185be, 0x550c7dc3, 0x72be5d74, 0x80deb1fe, 0x9bdc06a7, 0xc19bf174,
   0xe49b69c1, 0xefbe4786, 0x0fc19dc6, 0x240ca1cc, 0x2de92c6f, 0x4a7484aa, 0x5cb0a9dc, 0x76f988da,
   0x983e5152, 0xa831c66d, 0xb00327c8, 0xbf597fc7, 0xc6e00bf3, 0xd5a79147, 0x06ca6351, 0x14292967,
   0x27b70a85, 0x2e1b2138, 0x4d2c6dfc, 0x53380d13, 0x650a7354, 0x766a0abb, 0x81c2c92e, 0x92722c85,
   0xa2bfe8a1, 0xa81a664b, 0xc24b8b70, 0xc76c51a3, 0xd192e819, 0xd6990624, 0xf40e3585, 0x106aa070,
   0x19a4c116, 0x1e376c08, 0x2748774c, 0x34b0bcb5, 0x391c0cb3, 0x4ed8aa4a, 0x5b9cca4f, 0x682e6ff3,
   0x748f82ee, 0x78a5636f, 0x84c87814, 0x8cc70208, 0x90befffa, 0xa4506ceb, 0xbef9a3f7, 0xc67178f2]

/-- The eight words that the rounds act on. -/
structure State where
  a : ℕ
  b : ℕ
  c : ℕ
  d : ℕ
  e : ℕ
  f : ℕ
  g : ℕ
  h : ℕ

/-- The state before the first block. -/
def initialState : State :=
  ⟨0x6a09e667, 0xbb67ae85, 0x3c6ef372, 0xa54ff53a, 0x510e527f, 0x9b05688c, 0x1f83d9ab, 0x5be0cd19⟩

def rotateRight (x n : ℕ) : ℕ := (x >>> n) ||| ((x <<< (32 - n)) % wordSize)

def complement (x : ℕ) : ℕ := x ^^^ (wordSize - 1)

def smallSigma0 (x : ℕ) : ℕ := rotateRight x 7 ^^^ rotateRight x 18 ^^^ (x >>> 3)

def smallSigma1 (x : ℕ) : ℕ := rotateRight x 17 ^^^ rotateRight x 19 ^^^ (x >>> 10)

def bigSigma0 (x : ℕ) : ℕ := rotateRight x 2 ^^^ rotateRight x 13 ^^^ rotateRight x 22

def bigSigma1 (x : ℕ) : ℕ := rotateRight x 6 ^^^ rotateRight x 11 ^^^ rotateRight x 25

def choose (x y z : ℕ) : ℕ := (x &&& y) ^^^ (complement x &&& z)

def majority (x y z : ℕ) : ℕ := (x &&& y) ^^^ (x &&& z) ^^^ (y &&& z)

/-- One round with constant `k` and schedule word `w`. -/
def round (s : State) (k w : ℕ) : State :=
  let t1 := (s.h + bigSigma1 s.e + choose s.e s.f s.g + k + w) % wordSize
  let t2 := (bigSigma0 s.a + majority s.a s.b s.c) % wordSize
  ⟨(t1 + t2) % wordSize, s.a, s.b, s.c, (s.d + t1) % wordSize, s.e, s.f, s.g⟩

/-- The rounds for the remaining constants.  `window` holds the next sixteen schedule words. -/
def rounds : List ℕ → List ℕ → State → State
  | k :: ks, w :: window, s =>
      let next := (smallSigma1 (window.getD 13 0) + window.getD 8 0 +
        smallSigma0 (window.getD 0 0) + w) % wordSize
      rounds ks (window ++ [next]) (round s k w)
  | _, _, s => s

/-- Absorb one block of sixteen words. -/
def compress (s : State) (block : List ℕ) : State :=
  let r := rounds roundConstants block s
  ⟨(s.a + r.a) % wordSize, (s.b + r.b) % wordSize, (s.c + r.c) % wordSize,
   (s.d + r.d) % wordSize, (s.e + r.e) % wordSize, (s.f + r.f) % wordSize,
   (s.g + r.g) % wordSize, (s.h + r.h) % wordSize⟩

/-- Big-endian words. -/
def toWords : List UInt8 → List ℕ
  | a :: b :: c :: d :: rest =>
      (a.toNat <<< 24 + b.toNat <<< 16 + c.toNat <<< 8 + d.toNat) :: toWords rest
  | _ => []

/-- A number as eight big-endian bytes. -/
def bigEndian64 (n : ℕ) : List UInt8 :=
  (List.range 8).map fun i => UInt8.ofNat (n >>> (8 * (7 - i)))

/-- The message, a one bit, zeros, and the length of the message in bits. -/
def pad (message : List UInt8) : List UInt8 :=
  message ++ [0x80] ++ List.replicate ((119 - message.length % 64) % 64) 0 ++
    bigEndian64 (8 * message.length)

/-- Cut `n` blocks of sixteen words. -/
def blocks : ℕ → List ℕ → List (List ℕ)
  | 0, _ => []
  | n + 1, words => words.take 16 :: blocks n (words.drop 16)

/-- The eight words of the digest. -/
def digest (message : List UInt8) : List ℕ :=
  let words := toWords (pad message)
  let s := (blocks (words.length / 16) words).foldl compress initialState
  [s.a, s.b, s.c, s.d, s.e, s.f, s.g, s.h]

/-- The lowercase hexadecimal digits. -/
def hexDigits : List Char :=
  ['0', '1', '2', '3', '4', '5', '6', '7', '8', '9', 'a', 'b', 'c', 'd', 'e', 'f']

def hexDigit (n : ℕ) : Char := hexDigits.getD n '0'

/-- A word as eight hexadecimal digits. -/
def hexWord (w : ℕ) : List Char :=
  (List.range 8).map fun i => hexDigit ((w >>> (4 * (7 - i))) % 16)

/-- The digest as a string of hexadecimal digits. -/
def hexdigest (message : List UInt8) : String := String.ofList ((digest message).flatMap hexWord)

theorem hexDigit_mem (n : ℕ) : hexDigit n ∈ hexDigits := by
  unfold hexDigit
  rcases Nat.lt_or_ge n hexDigits.length with h | h
  · rw [List.getD_eq_getElem _ _ h]
    exact List.getElem_mem h
  · rw [List.getD_eq_default _ _ h]
    decide

theorem length_hexdigest (message : List UInt8) : (hexdigest message).toList.length = 64 := by
  simp [hexdigest, digest, hexWord]

theorem hexdigest_digits (message : List UInt8) :
    ∀ c ∈ (hexdigest message).toList, c ∈ hexDigits := by
  intro c hc
  rw [hexdigest, String.toList_ofList, List.mem_flatMap] at hc
  obtain ⟨w, -, hw⟩ := hc
  obtain ⟨i, -, rfl⟩ := List.mem_map.mp hw
  exact hexDigit_mem _

example : hexdigest [0x61, 0x62, 0x63] =
    "ba7816bf8f01cfea414140de5dae2223b00361a396177a9cb410ff61f20015ad" := by decide +kernel

end Hashing.Sha256
