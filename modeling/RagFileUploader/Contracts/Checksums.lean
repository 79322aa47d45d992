import RagFileUploader.Presentation.Headers

/-!
# The checksums that a header may spell

A chunk's checksum is sent as sixty-four hexadecimal digits, or in Base64.  The decoder passes over
characters that are not of its alphabet and stops at the first pad that completes a group of four,
so it reads a digest in other texts than its canonical encoding as well: in all that have
forty-three characters of the alphabet before that pad.

* `a2bBase64_b64encode` is the round trip of the canonical encoding.
* `Reading` is the invariant of the decoder's loop: how many characters of the alphabet have been
  read, and how many pads since.  `Reading.a2bBase64_iff` is the induction over the rest of the
  text, and `b64decode_iff` the result about whole texts.
* `upload_checksum_grammar_iff` compares what is accepted with the two spellings of a digest.
-/

namespace RagFileUploader

/-! ## The canonical encoding -/

/-- The character of the alphabet for six bits. -/
def sextet (n : ℕ) : Char := base64Alphabet.getD n 'A'

/-- `base64.b64encode`. -/
def b64encode : Bytes → List Char
  | [] => []
  | [a] => [sextet (a.toNat / 4), sextet (a.toNat % 4 * 16), '=', '=']
  | [a, b] =>
      [sextet (a.toNat / 4), sextet (a.toNat % 4 * 16 + b.toNat / 16),
        sextet (b.toNat % 16 * 4), '=']
  | a :: b :: c :: rest =>
      sextet (a.toNat / 4) :: sextet (a.toNat % 4 * 16 + b.toNat / 16) ::
        sextet (b.toNat % 16 * 4 + c.toNat / 64) :: sextet (c.toNat % 64) :: b64encode rest

example : b64encode [0x6d, 0x61, 0x6e, 0x79] = "bWFueQ==".toList := by decide

/-- The header spells a digest: its name is followed by the digits of any case, or by Base64. -/
def Spells (header : String) (digest : Bytes) : Prop :=
  ∃ value, header.toList = "sha256 ".toList ++ value ∧
    ((value.length = 64 ∧ (∀ c ∈ value, c ∈ hexDigitsAnyCase) ∧
      lower (String.ofList value) = hex digest) ∨ value = b64encode digest)

/-! ## What the decoder reads -/

/-- How many characters of the alphabet there are. -/
def sextets (s : List Char) : ℕ := s.countP (· ∈ base64Alphabet)

/-- The pads after the last character of the alphabet. -/
def padsSince (s : List Char) : ℕ := (s.reverse.takeWhile (· ∉ base64Alphabet)).count '='

/-- A pad that follows `s` completes a group of four. -/
def ClosesQuad (s : List Char) : Prop :=
  2 ≤ sextets s % 4 ∧ 4 ≤ sextets s % 4 + (padsSince s + 1)

/-- The first pad that completes a group comes after the forty-three characters that a digest
takes. -/
def Passes (value : List Char) : Prop :=
  ∃ before after, value = before ++ '=' :: after ∧ sextets before = 43 ∧
    ∀ s rest, before = s ++ '=' :: rest → ¬ ClosesQuad s

theorem sextet_spec {n : ℕ} (hn : n < 64) :
    sextet n ∈ base64Alphabet ∧ sextet n ≠ '=' ∧ base64Alphabet.idxOf (sextet n) = n ∧
      (sextet n).toNat < 128 := by
  have hall : ∀ n < 64, sextet n ∈ base64Alphabet ∧ sextet n ≠ '=' ∧
      base64Alphabet.idxOf (sextet n) = n ∧ (sextet n).toNat < 128 := by decide +kernel
  exact hall n hn

section

variable {position left pads : ℕ} {out : Bytes} {c : Char} {rest : List Char}

/-- One character of the alphabet. -/
theorem a2bBase64_sextet {n : ℕ} (hn : n < 64) :
    a2bBase64 position left pads out (sextet n :: rest) =
      match position with
      | 0 => a2bBase64 1 n 0 out rest
      | 1 => a2bBase64 2 (n % 16) 0 (out ++ [.ofNat (left * 4 + n / 16)]) rest
      | 2 => a2bBase64 3 (n % 4) 0 (out ++ [.ofNat (left * 16 + n / 4)]) rest
      | _ => a2bBase64 0 0 0 (out ++ [.ofNat (left * 64 + n)]) rest := by
  obtain ⟨hmem, hpad, hidx, -⟩ := sextet_spec hn
  rw [a2bBase64, if_neg hpad, if_neg (not_not.mpr hmem)]
  generalize base64Alphabet.idxOf (sextet n) = bits at hidx ⊢
  subst hidx
  rfl

theorem ofNat_eq {a : UInt8} {n : ℕ} (h : n = a.toNat) : UInt8.ofNat n = a := by
  rw [h, UInt8.ofNat_toNat]

/-- Three bytes in four characters. -/
theorem a2bBase64_group {n₀ n₁ n₂ n₃ : ℕ} (h₀ : n₀ < 64) (h₁ : n₁ < 64) (h₂ : n₂ < 64)
    (h₃ : n₃ < 64) :
    a2bBase64 0 left pads out (sextet n₀ :: sextet n₁ :: sextet n₂ :: sextet n₃ :: rest) =
      a2bBase64 0 0 0 (out ++ [.ofNat (n₀ * 4 + n₁ / 16), .ofNat (n₁ % 16 * 16 + n₂ / 4),
        .ofNat (n₂ % 4 * 64 + n₃)]) rest := by
  simp only [a2bBase64_sextet h₀, a2bBase64_sextet h₁, a2bBase64_sextet h₂, a2bBase64_sextet h₃,
    List.append_assoc, List.cons_append, List.nil_append]

/-- The decoder undoes the encoding. -/
theorem a2bBase64_b64encode (data : Bytes) :
    a2bBase64 0 left pads out (b64encode data) = .ok (out ++ data) := by
  fun_induction b64encode data generalizing left pads out with
  | case1 => exact congrArg Except.ok (List.append_nil out).symm
  | case2 a =>
      have ha := a.toNat_lt
      have hread : UInt8.ofNat (a.toNat / 4 * 4 + a.toNat % 4 * 16 / 16) = a := ofNat_eq (by omega)
      have h₀ : a.toNat / 4 < 64 := by omega
      have h₁ : a.toNat % 4 * 16 < 64 := by omega
      simp only [a2bBase64_sextet h₀, a2bBase64_sextet h₁, hread]
      simp [a2bBase64]
  | case3 a b =>
      have ha := a.toNat_lt
      have hb := b.toNat_lt
      have hread : UInt8.ofNat (a.toNat / 4 * 4 + (a.toNat % 4 * 16 + b.toNat / 16) / 16) = a :=
        ofNat_eq (by omega)
      have hread' : UInt8.ofNat ((a.toNat % 4 * 16 + b.toNat / 16) % 16 * 16 +
          b.toNat % 16 * 4 / 4) = b := ofNat_eq (by omega)
      have h₀ : a.toNat / 4 < 64 := by omega
      have h₁ : a.toNat % 4 * 16 + b.toNat / 16 < 64 := by omega
      have h₂ : b.toNat % 16 * 4 < 64 := by omega
      simp only [a2bBase64_sextet h₀, a2bBase64_sextet h₁, a2bBase64_sextet h₂, hread, hread']
      simp [a2bBase64]
  | case4 a b c rest ih =>
      have ha := a.toNat_lt
      have hb := b.toNat_lt
      have hc := c.toNat_lt
      rw [a2bBase64_group (by omega) (by omega) (by omega) (by omega), ih,
        ofNat_eq (a := a) (by omega), ofNat_eq (a := b) (by omega), ofNat_eq (a := c) (by omega)]
      simp

end

/-- What the encoding consists of is ASCII. -/
theorem b64encode_ascii {data : Bytes} : ∀ c ∈ b64encode data, c.toNat < 128 := by
  have hsextet {n : ℕ} (hn : n < 64) : (sextet n).toNat < 128 := (sextet_spec hn).2.2.2
  have hpad : '='.toNat < 128 := by decide
  fun_induction b64encode data with
  | case1 => exact List.forall_mem_nil _
  | case2 a =>
      have ha := a.toNat_lt
      simp only [List.forall_mem_cons]
      exact ⟨hsextet (by omega), hsextet (by omega), hpad, hpad, List.forall_mem_nil _⟩
  | case3 a b =>
      have ha := a.toNat_lt
      have hb := b.toNat_lt
      simp only [List.forall_mem_cons]
      exact ⟨hsextet (by omega), hsextet (by omega), hsextet (by omega), hpad,
        List.forall_mem_nil _⟩
  | case4 a b c rest ih =>
      have ha := a.toNat_lt
      have hb := b.toNat_lt
      have hc := c.toNat_lt
      simp only [List.forall_mem_cons]
      exact ⟨hsextet (by omega), hsextet (by omega), hsextet (by omega), hsextet (by omega), ih⟩

theorem b64decode_b64encode (data : Bytes) : b64decode (b64encode data) = .ok data := by
  have hascii : ¬ ∃ c ∈ b64encode data, 128 ≤ c.toNat := by
    rintro ⟨c, hc, hlarge⟩
    have := b64encode_ascii c hc
    omega
  rw [b64decode, if_neg hascii, a2bBase64_b64encode, List.nil_append]

/-! ## What the decoder passes over -/

/-- A character that is neither in the alphabet nor a pad does not matter. -/
theorem b64decode_cons {c : Char} {rest : List Char} (hascii : c.toNat < 128) (hpad : c ≠ '=')
    (hmem : c ∉ base64Alphabet) : b64decode (c :: rest) = b64decode rest := by
  have hsame : (∃ c' ∈ c :: rest, 128 ≤ c'.toNat) ↔ ∃ c' ∈ rest, 128 ≤ c'.toNat := by
    simp only [List.mem_cons, exists_eq_or_imp]
    exact or_iff_right (Nat.not_le.mpr hascii)
  simp only [b64decode, hsame]
  rw [a2bBase64, if_neg hpad, if_pos hmem]

/-- As `Passes`, with `done` read already. -/
def PassesAfter (done rest : List Char) : Prop :=
  ∃ before after, rest = before ++ '=' :: after ∧ sextets (done ++ before) = 43 ∧
    ∀ s t, before = s ++ '=' :: t → ¬ ClosesQuad (done ++ s)

section

variable {done rest : List Char} {c : Char}

theorem closesQuad_of_sextets (h : sextets done = 43) : ClosesQuad done := by
  rw [ClosesQuad, h]
  omega

theorem passesAfter_pad (h : ClosesQuad done) :
    PassesAfter done ('=' :: rest) ↔ sextets done = 43 := by
  constructor
  · rintro ⟨before, after, hrest, hcount, hopen⟩
    cases before with
    | nil => rwa [List.append_nil] at hcount
    | cons c before =>
        obtain ⟨rfl, -⟩ := List.cons.inj hrest
        exact absurd ((List.append_nil done).symm ▸ h) (hopen [] before rfl)
  · exact fun hcount => ⟨[], rest, rfl, (List.append_nil done).symm ▸ hcount, fun s t hs => by
      simp at hs⟩

/-- A character that completes nothing is passed over. -/
theorem passesAfter_cons (h : c = '=' → ¬ ClosesQuad done) :
    PassesAfter done (c :: rest) ↔ PassesAfter (done ++ [c]) rest := by
  constructor
  · rintro ⟨before, after, hrest, hcount, hopen⟩
    cases before with
    | nil =>
        obtain ⟨rfl, -⟩ := List.cons.inj hrest
        rw [List.append_nil] at hcount
        exact absurd (closesQuad_of_sextets hcount) (h rfl)
    | cons c' before =>
        obtain ⟨rfl, rfl⟩ := List.cons.inj hrest
        refine ⟨before, after, rfl, ?_, fun s t hs => ?_⟩
        · rwa [List.append_assoc]
        · rw [List.append_assoc]
          exact hopen (c :: s) t (congrArg (c :: ·) hs)
  · rintro ⟨before, after, rfl, hcount, hopen⟩
    refine ⟨c :: before, after, rfl, ?_, fun s t hs => ?_⟩
    · rwa [List.append_assoc] at hcount
    · cases s with
      | nil =>
          obtain ⟨rfl, -⟩ := List.cons.inj hs
          rw [List.append_nil]
          exact h rfl
      | cons c' s =>
          obtain ⟨rfl, hrest⟩ := List.cons.inj hs
          have hopen' := hopen s t hrest
          rwa [List.append_assoc] at hopen'

theorem sextets_append : sextets (done ++ [c]) =
    sextets done + if c ∈ base64Alphabet then 1 else 0 := by
  simp [sextets, List.countP_append, List.countP_singleton]

theorem padsSince_append (h : c ∉ base64Alphabet) :
    padsSince (done ++ [c]) = padsSince done + if c = '=' then 1 else 0 := by
  simp [padsSince, h, List.count_cons]

theorem padsSince_append_mem (h : c ∈ base64Alphabet) : padsSince (done ++ [c]) = 0 := by
  simp [padsSince, h]

/-- The state of the decoder after a text in which no pad completes a group. -/
structure Reading (done : List Char) (position pads : ℕ) (out : Bytes) : Prop where
  position_eq : position = sextets done % 4
  pads_eq : 2 ≤ position → pads = padsSince done
  length_out : out.length = sextets done / 4 * 3 + (position - 1)

variable {position left pads : ℕ} {out : Bytes}

theorem Reading.completes_iff (h : Reading done position pads out) :
    ClosesQuad done ↔ 2 ≤ position ∧ 4 ≤ position + (pads + 1) := by
  rw [ClosesQuad, ← h.position_eq]
  refine and_congr_right fun hposition => ?_
  rw [h.pads_eq hposition]

/-- A character outside the alphabet moves nothing but the number of pads. -/
theorem Reading.pass {pads' : ℕ} (h : Reading done position pads out) (hc : c ∉ base64Alphabet)
    (hpads : 2 ≤ position → pads' = pads + if c = '=' then 1 else 0) :
    Reading (done ++ [c]) position pads' out := by
  have hcount : sextets (done ++ [c]) = sextets done := by
    rw [sextets_append, if_neg hc, Nat.add_zero]
  refine ⟨?_, fun hposition => ?_, ?_⟩
  · rw [hcount, h.position_eq]
  · rw [padsSince_append hc, hpads hposition, h.pads_eq hposition]
  · rw [hcount, h.length_out]

/-- A character of the alphabet moves on to the next position. -/
theorem Reading.read {out' : Bytes} (h : Reading done position pads out) (hc : c ∈ base64Alphabet)
    (hout : out'.length = out.length + if position = 0 then 0 else 1) :
    Reading (done ++ [c]) ((position + 1) % 4) 0 out' := by
  have hposition := h.position_eq
  have hcount : sextets (done ++ [c]) = sextets done + 1 := by rw [sextets_append, if_pos hc]
  refine ⟨by omega, fun _ => (padsSince_append_mem hc).symm, ?_⟩
  rw [hcount, hout, h.length_out]
  split <;> omega

/-- The decoder finds thirty-two bytes exactly in the texts that pass. -/
theorem Reading.a2bBase64_iff (h : Reading done position pads out) :
    (∃ data, a2bBase64 position left pads out rest = .ok data ∧ data.length = 32) ↔
      PassesAfter done rest := by
  have hpad : '=' ∉ base64Alphabet := by decide
  -- `Reading` relates the state of the loop to the characters that it has consumed
  induction rest generalizing done position left pads out with
  | nil =>
      refine iff_of_false ?_ ?_
      · rintro ⟨data, hdata, hlength⟩
        have hposition := h.position_eq
        have hout := h.length_out
        rw [a2bBase64] at hdata
        split at hdata
        · cases hdata
          omega
        · split at hdata <;> cases hdata
      · rintro ⟨before, after, hrest, -⟩
        exact absurd hrest.symm (by simp)
  | cons c rest ih =>
      rw [a2bBase64]
      by_cases hc : c = '='
      · subst hc
        rw [if_pos rfl]
        -- padding that comes too early is passed over
        by_cases hlow : position < 2
        · rw [if_pos hlow, passesAfter_cons fun _ hend => ?_]
          · exact ih (h.pass hpad fun hposition => absurd hlow (by omega))
          · have := (h.completes_iff.mp hend).1
            omega
        · rw [if_neg hlow]
          by_cases hend : 4 ≤ position + (pads + 1)
          · -- the group is complete, and so is the result
            rw [if_pos hend, passesAfter_pad (h.completes_iff.mpr ⟨by omega, hend⟩)]
            have hposition := h.position_eq
            have hout := h.length_out
            constructor
            · rintro ⟨data, hdata, hlength⟩
              cases hdata
              omega
            · exact fun hcount => ⟨out, rfl, by omega⟩
          · rw [if_neg hend, passesAfter_cons fun _ h' => hend (h.completes_iff.mp h').2]
            exact ih (h.pass hpad fun _ => by rw [if_pos rfl])
      · rw [if_neg hc, passesAfter_cons fun heq => absurd heq hc]
        by_cases hmem : c ∈ base64Alphabet
        · rw [if_neg (not_not.mpr hmem)]
          have hposition : position < 4 := by
            rw [h.position_eq]
            omega
          -- each of the four positions in a group adds its bits
          obtain rfl | rfl | rfl | rfl : position = 0 ∨ position = 1 ∨ position = 2 ∨
              position = 3 := by omega
          · exact ih (h.read hmem rfl)
          · exact ih (h.read hmem List.length_append)
          · exact ih (h.read hmem List.length_append)
          · exact ih (h.read hmem List.length_append)
        · rw [if_pos hmem]
          exact ih (h.pass hmem fun _ => by rw [if_neg hc, Nat.add_zero])

end

/-- Base64 for thirty-two bytes, as far as the decoder minds. -/
theorem b64decode_iff {value : List Char} :
    (∃ data, b64decode value = .ok data ∧ data.length = 32) ↔
      (∀ c ∈ value, c.toNat < 128) ∧ Passes value := by
  have hstart : Reading [] 0 0 [] := ⟨rfl, nofun, rfl⟩
  unfold b64decode
  split
  · next h =>
      obtain ⟨c, hc, hlarge⟩ := h
      refine iff_of_false nofun fun hvalue => ?_
      have := hvalue.1 c hc
      omega
  · next h =>
      have hascii : ∀ c ∈ value, c.toNat < 128 := fun c hc =>
        Nat.lt_of_not_le fun hlarge => h ⟨c, hc, hlarge⟩
      rw [hstart.a2bBase64_iff]
      exact (and_iff_right hascii).symm

/-! ## The header -/

section

variable {header checksum : String} {value : List Char} {digest : Bytes}

theorem parseChecksum_eq_ok_iff :
    parseChecksum header = .ok checksum ↔
      ∃ value, header.toList = "sha256 ".toList ++ value ∧ checksumValue value = .ok checksum := by
  have hspaced : "sha256 ".toList = "sha256".toList ++ [' '] := by simp
  have hsplit (value : List Char) : ("sha256 ".toList ++ value).span (· ≠ ' ') =
      ("sha256".toList, ' ' :: value) := by
    rw [List.span_eq_takeWhile_dropWhile]
    simp
  unfold parseChecksum
  constructor
  · intro h
    split at h
    · next algorithm space value hspan =>
        split at h
        · next hname =>
            rw [List.span_eq_takeWhile_dropWhile] at hspan
            obtain ⟨hbefore, hafter⟩ := Prod.mk.inj hspan
            have hspace := List.head?_dropWhile_not (fun c => decide (c ≠ ' ')) header.toList
            rw [hafter] at hspace
            obtain rfl : space = ' ' := by simpa using hspace
            refine ⟨value, ?_, h⟩
            rw [← List.takeWhile_append_dropWhile (p := fun c => decide (c ≠ ' '))
              (l := header.toList), hbefore, hafter, hname, hspaced, List.append_assoc,
              List.singleton_append]
        · cases h
    · cases h
  · rintro ⟨value, hvalue, h⟩
    rw [hvalue, hsplit]
    dsimp only
    rw [if_pos rfl]
    exact h

/-- The digits that stand for some bytes. -/
theorem exists_hex {n : ℕ} {digits : List Char} (hlength : digits.length = 2 * n)
    (hdigits : ∀ c ∈ digits, c ∈ Hashing.Sha256.hexDigits) :
    ∃ data : Bytes, data.length = n ∧ (hex data).toList = digits := by
  have hvalue : ∀ c ∈ Hashing.Sha256.hexDigits, ∃ i < 16, Hashing.Sha256.hexDigit i = c := by
    decide
  induction n generalizing digits with
  | zero => exact ⟨[], rfl, (List.eq_nil_of_length_eq_zero hlength).symm⟩
  | succ n ih =>
      match digits, hlength with
      | c :: c' :: rest, hlength =>
          obtain ⟨hc, hdigits⟩ := List.forall_mem_cons.mp hdigits
          obtain ⟨hc', hrest⟩ := List.forall_mem_cons.mp hdigits
          obtain ⟨data, hdata, hhex⟩ := ih (by simp at hlength; omega) hrest
          obtain ⟨i, hi, rfl⟩ := hvalue c hc
          obtain ⟨j, hj, rfl⟩ := hvalue c' hc'
          refine ⟨.ofNat (16 * i + j) :: data, congrArg (· + 1) hdata, ?_⟩
          have hbyte : (UInt8.ofNat (16 * i + j)).toNat = 16 * i + j := by
            rw [UInt8.toNat_ofNat']
            omega
          have hhigh : (16 * i + j) / 16 = i := by omega
          have hlow : (16 * i + j) % 16 = j := by omega
          rw [hex, String.toList_ofList] at hhex ⊢
          rw [List.flatMap_cons, hhex, hbyte, hhigh, hlow]
          rfl

/-- A digest's encoding has a pad, so it is no row of digits. -/
theorem not_hex_of_passes (h : Passes value) : ¬ ∀ c ∈ value, c ∈ hexDigitsAnyCase := by
  obtain ⟨before, after, rfl, -⟩ := h
  exact fun hdigits => absurd (hdigits '=' (by simp)) (by decide)

theorem passes_b64encode (h : digest.length = 32) : Passes (b64encode digest) :=
  (b64decode_iff.mp ⟨digest, b64decode_b64encode digest, h⟩).2

/-- What is accepted is a row of digits, or Base64 for thirty-two bytes. -/
theorem checksumValue_eq_ok_iff :
    checksumValue value = .ok checksum ↔
      (value.length = 64 ∧ (∀ c ∈ value, c ∈ hexDigitsAnyCase) ∧
        checksum = lower (String.ofList value)) ∨
      ¬ (value.length = 64 ∧ ∀ c ∈ value, c ∈ hexDigitsAnyCase) ∧
        ∃ data, b64decode value = .ok data ∧ data.length = 32 ∧ checksum = hex data := by
  unfold checksumValue
  split
  · next hhex =>
      constructor
      · intro h
        cases h
        exact .inl ⟨hhex.1, hhex.2, rfl⟩
      · rintro (⟨-, -, rfl⟩ | ⟨hno, -⟩)
        · rfl
        · exact absurd hhex hno
  · next hhex =>
      rw [or_iff_right fun h => hhex ⟨h.1, h.2.1⟩, and_iff_right hhex]
      cases b64decode value with
      | error e => simp
      | ok data =>
          dsimp only
          split
          · next hlength =>
              refine iff_of_false nofun ?_
              rintro ⟨_, ⟨⟩, hlength', -⟩
              exact hlength hlength'
          · next hlength =>
              constructor
              · intro h
                cases h
                exact ⟨data, rfl, not_not.mp hlength, rfl⟩
              · rintro ⟨_, ⟨⟩, -, rfl⟩
                rfl

/-- What spells a digest is accepted, and read as that digest. -/
theorem parseChecksum_of_spells (hlength : digest.length = 32) (h : Spells header digest) :
    parseChecksum header = .ok (hex digest) := by
  obtain ⟨value, hvalue, ⟨hvalueLength, hdigits, hlower⟩ | rfl⟩ := h
  · exact parseChecksum_eq_ok_iff.mpr ⟨value, hvalue,
      checksumValue_eq_ok_iff.mpr (.inl ⟨hvalueLength, hdigits, hlower.symm⟩)⟩
  · refine parseChecksum_eq_ok_iff.mpr ⟨_, hvalue, checksumValue_eq_ok_iff.mpr (.inr ⟨?_, ?_⟩)⟩
    · exact fun hhex => not_hex_of_passes (passes_b64encode hlength) hhex.2
    · exact ⟨digest, b64decode_b64encode digest, hlength, rfl⟩

/-- The parser accepts what spells a digest, and reads that digest, exactly if no Base64 is sent
that passes without being canonical. -/
theorem upload_checksum_grammar_iff (header : String) :
    (∀ checksum, parseChecksum (strip header) = .ok checksum ↔
      ∃ digest, digest.length = 32 ∧ Spells (strip header) digest ∧ checksum = hex digest) ↔
        ∀ value, (strip header).toList = "sha256 ".toList ++ value →
          (∀ c ∈ value, c.toNat < 128) → Passes value →
            ∃ digest, digest.length = 32 ∧ value = b64encode digest := by
  constructor
  · intro hgrammar value hvalue hascii hpasses
    obtain ⟨data, hdata, hlength⟩ := b64decode_iff.mpr ⟨hascii, hpasses⟩
    have hread : parseChecksum (strip header) = .ok (hex data) :=
      parseChecksum_eq_ok_iff.mpr ⟨value, hvalue, checksumValue_eq_ok_iff.mpr
        (.inr ⟨fun hhex => not_hex_of_passes hpasses hhex.2, data, hdata, hlength, rfl⟩)⟩
    obtain ⟨digest, hdigest, ⟨value', hvalue', hspelled⟩, -⟩ := (hgrammar _).mp hread
    obtain rfl := List.append_cancel_left (hvalue.symm.trans hvalue')
    rcases hspelled with ⟨-, hdigits, -⟩ | hcanonical
    · exact absurd hdigits (not_hex_of_passes hpasses)
    · exact ⟨digest, hdigest, hcanonical⟩
  · intro hcanonical checksum
    constructor
    · intro hread
      obtain ⟨value, hvalue, hread⟩ := parseChecksum_eq_ok_iff.mp hread
      rcases checksumValue_eq_ok_iff.mp hread with
        ⟨hlength, hdigits, rfl⟩ | ⟨-, data, hdata, hlength, rfl⟩
      · obtain ⟨hlower, hhex⟩ := isHex64_lower hlength hdigits
        obtain ⟨digest, hdigest, hdigits'⟩ := exists_hex (n := 32) hlower hhex
        have heq : hex digest = lower (String.ofList value) := String.toList_inj.mp hdigits'
        exact ⟨digest, hdigest, ⟨value, hvalue, .inl ⟨hlength, hdigits, heq.symm⟩⟩, heq.symm⟩
      · obtain ⟨hascii, hpasses⟩ := b64decode_iff.mp ⟨data, hdata, hlength⟩
        obtain ⟨digest, hdigest, rfl⟩ := hcanonical value hvalue hascii hpasses
        rw [b64decode_b64encode] at hdata
        cases hdata
        exact ⟨data, hlength, ⟨_, hvalue, .inr rfl⟩, rfl⟩
    · rintro ⟨digest, hlength, hspells, rfl⟩
      exact parseChecksum_of_spells hlength hspells

end

theorem length_b64encode (data : Bytes) :
    (b64encode data).length = (data.length + 2) / 3 * 4 := by
  fun_induction b64encode data with
  | case1 => rfl
  | case2 a => simp only [List.length_cons, List.length_nil]
  | case3 a b => simp only [List.length_cons, List.length_nil]
  | case4 a b c rest ih =>
      simp only [List.length_cons, ih]
      omega

namespace Sample

/-- The encoding of thirty-two zeros, after a character that is none of Base64. -/
def junkValue : List Char := '!' :: List.replicate 43 'A' ++ ['=']

def junkHeader : String := "sha256 !AAAAAAAAAAAAAAAAAAAAAAAAAAAAAAAAAAAAAAAAAAA="

end Sample

open Sample in
/-- A header that spells no digest is accepted. -/
theorem junk_accepted :
    ¬ ∀ checksum, parseChecksum (strip junkHeader) = .ok checksum ↔
      ∃ digest, digest.length = 32 ∧ Spells (strip junkHeader) digest ∧
        checksum = hex digest := by
  intro h
  have hheader : (strip junkHeader).toList = "sha256 ".toList ++ junkValue := by decide +kernel
  have hencoded : junkValue = '!' :: b64encode (List.replicate 32 0) := by decide +kernel
  have hdecoded : b64decode junkValue = .ok (List.replicate 32 0) := by
    rw [hencoded, b64decode_cons (by decide) (by decide) (by decide +kernel), b64decode_b64encode]
  have hread : parseChecksum (strip junkHeader) = .ok (hex (List.replicate 32 0)) :=
    parseChecksum_eq_ok_iff.mpr ⟨junkValue, hheader, checksumValue_eq_ok_iff.mpr
      (.inr ⟨fun h => absurd h.1 (by decide), _, hdecoded, List.length_replicate, rfl⟩)⟩
  obtain ⟨digest, hlength, ⟨value, hvalue, hspelled⟩, -⟩ := (h _).mp hread
  obtain rfl := List.append_cancel_left (hheader.symm.trans hvalue)
  rcases hspelled with ⟨hdigits, -⟩ | hcanonical
  · exact absurd hdigits (by decide)
  · have hvalueLength := congrArg List.length hcanonical
    rw [length_b64encode, hlength] at hvalueLength
    exact absurd hvalueLength (by decide)

end RagFileUploader
