import RagFileUploader.Domain.Exceptions

/-!
# The headers of a chunk

What `upload_chunk` makes of the texts that it is sent: the checksum in either of its two forms,
with the part of `base64` that decodes the second, and the content length.
-/

namespace RagFileUploader

open Hashing

/-! ## Python's texts -/

def stripChars (drop : Char → Bool) (s : List Char) : List Char :=
  (s.dropWhile drop).rdropWhile drop

/-- `str.strip`. -/
def strip (s : String) : String := String.ofList (stripChars isSpace s.toList)

/-- Digits, any two of which a single underscore may separate. -/
def intDigits? : List Char → Option (List Char)
  | [] => none
  | [c] => if c.isDigit then some [c] else none
  | c :: '_' :: rest => if c.isDigit then (c :: ·) <$> intDigits? rest else none
  | c :: rest => if c.isDigit then (c :: ·) <$> intDigits? rest else none

/-- `int(s)`; `none` stands for the `ValueError`.  A header is sent in Latin-1, which has no
decimal digits but those of ASCII. -/
def parseInt? (s : String) : Option ℤ := do
  -- unlike `strip`, `int` keeps the four separators of ASCII
  let chars := stripChars (fun c => isSpace c && !(28 ≤ c.toNat && c.toNat ≤ 31)) s.toList
  let (sign, chars) : ℤ × List Char := match chars with
    | '-' :: rest => (-1, rest)
    | '+' :: rest => (1, rest)
    | _ => (1, chars)
  let digits ← intDigits? chars
  guard (digits.length ≤ 4300)
  let n ← DateTime.number? digits
  some (sign * n)

example : parseInt? " 104_857_600 " = some 104857600 := by decide +kernel

/-- `bytes.hex`. -/
def hex (data : Bytes) : String :=
  String.ofList (data.flatMap fun b =>
    [Sha256.hexDigit (b.toNat / 16), Sha256.hexDigit (b.toNat % 16)])

/-! ## Base64 -/

def base64Alphabet : List Char :=
  "ABCDEFGHIJKLMNOPQRSTUVWXYZabcdefghijklmnopqrstuvwxyz0123456789+/".toList

/-- `binascii.a2b_base64` in a group of four characters: how many of them have been read, the bits
that are not in a byte yet, and the pads since then. -/
def a2bBase64 (position left pads : ℕ) (out : Bytes) : List Char → Except Exc Bytes
  | [] =>
      if position = 0 then .ok out
      else if position = 1 then .error (.valueError
        (s!"Invalid base64-encoded string: number of data characters ({out.length / 3 * 4 + 1})" ++
          " cannot be 1 more than a multiple of 4"))
      else .error (.valueError "Incorrect padding")
  | c :: rest =>
      if c = '=' then
        if position < 2 then a2bBase64 position left pads out rest
        -- a pad that completes the group ends the text
        else if 4 ≤ position + (pads + 1) then .ok out
        else a2bBase64 position left (pads + 1) out rest
      else if c ∉ base64Alphabet then a2bBase64 position left pads out rest
      else
        let bits := base64Alphabet.idxOf c
        match position with
        | 0 => a2bBase64 1 bits 0 out rest
        | 1 => a2bBase64 2 (bits % 16) 0 (out ++ [.ofNat (left * 4 + bits / 16)]) rest
        | 2 => a2bBase64 3 (bits % 4) 0 (out ++ [.ofNat (left * 16 + bits / 4)]) rest
        | _ => a2bBase64 0 0 0 (out ++ [.ofNat (left * 64 + bits)]) rest

/-- `base64.b64decode`. -/
def b64decode (s : List Char) : Except Exc Bytes :=
  if ∃ c ∈ s, 128 ≤ c.toNat then
    .error (.valueError "string argument should contain only ASCII characters")
  else a2bBase64 0 0 0 [] s

/-! ## The checksum -/

/-- The digits that a checksum in hexadecimal form may have. -/
def hexDigitsAnyCase : List Char := "0123456789abcdefABCDEF".toList

/-- The part after the name of the algorithm. -/
def checksumValue (value : List Char) : Except Exc String :=
  if value.length = 64 ∧ ∀ c ∈ value, c ∈ hexDigitsAnyCase then
    .ok (lower (String.ofList value))
  else
    match b64decode value with
    | .ok data =>
        if data.length ≠ 32 then .error (.valueError
          ("Invalid checksum format - must be 64-char hex or base64: " ++
            "Decoded checksum must be 32 bytes (SHA-256)"))
        else .ok (hex data)
    | .error e => .error (.valueError
        s!"Invalid checksum format - must be 64-char hex or base64: {e.str}")

/-- The checksum of a stripped `Upload-Checksum` header. -/
def parseChecksum (header : String) : Except Exc String :=
  match header.toList.span (· ≠ ' ') with
  | (algorithm, _ :: value) =>
      if algorithm = "sha256".toList then checksumValue value
      else .error (.valueError "Invalid checksum format - must start with 'sha256 '")
  | (_, []) => .error (.valueError "Invalid checksum format - must start with 'sha256 '")

/-! ## What comes out is a checksum -/

theorem length_hex (data : Bytes) : (hex data).toList.length = 2 * data.length := by
  simp [hex, List.length_flatMap]
  omega

theorem isHex64_hex {data : Bytes} (h : data.length = 32) : IsHex64 (hex data).toList := by
  refine ⟨by rw [length_hex, h], fun c hc => ?_⟩
  rw [hex, String.toList_ofList, List.mem_flatMap] at hc
  obtain ⟨b, -, hc⟩ := hc
  rcases List.mem_pair.mp hc with rfl | rfl
  · exact Sha256.hexDigit_mem _
  · exact Sha256.hexDigit_mem _

theorem isHex64_lower {value : List Char} (hlength : value.length = 64)
    (hdigits : ∀ c ∈ value, c ∈ hexDigitsAnyCase) :
    IsHex64 (lower (String.ofList value)).toList := by
  have hlower : ∀ c ∈ hexDigitsAnyCase, c.toLower ∈ Sha256.hexDigits := by decide
  rw [lower, String.toList_ofList, String.toList_ofList]
  refine ⟨by rw [List.length_map, hlength], fun c hc => ?_⟩
  obtain ⟨c, hmem, rfl⟩ := List.mem_map.mp hc
  exact hlower c (hdigits c hmem)

/-- Whatever the header looks like, what is read from it passes as a checksum. -/
theorem isHex64_of_parseChecksum {header checksum : String}
    (h : parseChecksum header = .ok checksum) : IsHex64 checksum.toList := by
  unfold parseChecksum at h
  split at h
  · split at h
    · unfold checksumValue at h
      split at h
      · next hhex =>
          cases h
          exact isHex64_lower hhex.1 hhex.2
      · split at h
        · split at h
          · cases h
          · next hlength =>
              cases h
              exact isHex64_hex (not_not.mp hlength)
        · cases h
    · cases h
  · cases h

end RagFileUploader
