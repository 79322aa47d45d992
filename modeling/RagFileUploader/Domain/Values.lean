import RagFileUploader.Hashing.Sha256

/-!
# Values of the domain

Bytes, identifiers, timestamps, checksums and session statuses, with the parts of Python's string
and datetime behaviour that the service relies on.
-/

namespace RagFileUploader

open Hashing

abbrev Bytes := List UInt8

/-! ## Strings -/

/-- The characters that `str.strip` removes. -/
def isSpace (c : Char) : Bool :=
  (9 ≤ c.toNat && c.toNat ≤ 13) || (28 ≤ c.toNat && c.toNat ≤ 32) || c.toNat == 0x85 ||
    c.toNat == 0xa0 || c.toNat == 0x1680 || (0x2000 ≤ c.toNat && c.toNat ≤ 0x200a) ||
    c.toNat == 0x2028 || c.toNat == 0x2029 || c.toNat == 0x202f || c.toNat == 0x205f ||
    c.toNat == 0x3000

/-- `not s or not s.strip()`. -/
def isBlank (s : String) : Bool := s.toList.all isSpace

/-- `needle in s`. -/
def contains (needle s : String) : Prop := needle.toList <:+: s.toList

instance (needle s : String) : Decidable (contains needle s) :=
  inferInstanceAs (Decidable (needle.toList <:+: s.toList))

/-- `str.lower`, on the letters that the allowed MIME types consist of: no other character has
one of them as its lowercase form. -/
def lower (s : String) : String := String.ofList (s.toList.map Char.toLower)

/-- Decimal digits, padded with zeros to a width. -/
def zeroPad (width n : ℕ) : String :=
  let digits := (toString n).toList
  String.ofList (List.replicate (width - digits.length) '0' ++ digits)

/-! ## Identifiers -/

/-- A 128-bit identifier. -/
structure UUID where
  int : BitVec 128
  deriving DecidableEq, Repr

/-- The identifier that keys and events refuse. -/
def UUID.nil : UUID := ⟨0⟩

/-- `count` hexadecimal digits from position `start`, of the thirty-two that make a UUID. -/
def UUID.digits (u : UUID) (start count : ℕ) : List Char :=
  (List.range count).map fun i => Sha256.hexDigit ((u.int.toNat >>> (4 * (31 - (start + i)))) % 16)

/-- The canonical form, in five groups. -/
def UUID.str (u : UUID) : String :=
  String.ofList (u.digits 0 8 ++ '-' :: u.digits 8 4 ++ '-' :: u.digits 12 4 ++
    '-' :: u.digits 16 4 ++ '-' :: u.digits 20 12)

instance : ToString UUID := ⟨UUID.str⟩

theorem hexDigit_inj {a b : ℕ} (ha : a < 16) (hb : b < 16)
    (h : Sha256.hexDigit a = Sha256.hexDigit b) : a = b := by
  have hall : ∀ a < 16, ∀ b < 16, Sha256.hexDigit a = Sha256.hexDigit b → a = b := by decide
  exact hall a ha b hb h

@[simp] theorem UUID.length_digits (u : UUID) (start count : ℕ) :
    (u.digits start count).length = count := by
  simp [UUID.digits]

/-- Equal groups of digits come from equal nibbles. -/
theorem UUID.nibble_eq {u v : UUID} {start count : ℕ}
    (h : u.digits start count = v.digits start count) {i : ℕ} (hlo : start ≤ i)
    (hhi : i < start + count) :
    (u.int.toNat >>> (4 * (31 - i))) % 16 = (v.int.toNat >>> (4 * (31 - i))) % 16 := by
  have hdigit := congrArg (·[i - start]?) h
  have hlt : i - start < count := by omega
  have hi : start + (i - start) = i := by omega
  simp only [UUID.digits, List.getElem?_map, List.getElem?_range hlt, Option.map_some, hi,
    Option.some.injEq] at hdigit
  exact hexDigit_inj (Nat.mod_lt _ (by decide)) (Nat.mod_lt _ (by decide)) hdigit

/-- Different identifiers are written differently. -/
theorem UUID.str_injective {u v : UUID} (h : u.str = v.str) : u = v := by
  have hlist := congrArg String.toList h
  simp only [UUID.str, String.toList_ofList, List.append_assoc, List.cons_append] at hlist
  obtain ⟨h₀, hlist⟩ := List.append_inj hlist (by simp)
  obtain ⟨h₁, hlist⟩ := List.append_inj (List.tail_eq_of_cons_eq hlist) (by simp)
  obtain ⟨h₂, hlist⟩ := List.append_inj (List.tail_eq_of_cons_eq hlist) (by simp)
  obtain ⟨h₃, hlist⟩ := List.append_inj (List.tail_eq_of_cons_eq hlist) (by simp)
  have h₄ := List.tail_eq_of_cons_eq hlist
  have hnibble : ∀ i < 32,
      (u.int.toNat >>> (4 * (31 - i))) % 16 = (v.int.toNat >>> (4 * (31 - i))) % 16 := by
    intro i hi
    by_cases h8 : i < 8
    · exact nibble_eq h₀ (Nat.zero_le i) (by omega)
    by_cases h12 : i < 12
    · exact nibble_eq h₁ (by omega) (by omega)
    by_cases h16 : i < 16
    · exact nibble_eq h₂ (by omega) (by omega)
    by_cases h20 : i < 20
    · exact nibble_eq h₃ (by omega) (by omega)
    · exact nibble_eq h₄ (by omega) (by omega)
  have hint : u.int.toNat = v.int.toNat := by
    refine Nat.eq_of_testBit_eq fun j => ?_
    by_cases hj : j < 128
    · have hbit := congrArg (·.testBit (j % 4)) (hnibble (31 - j / 4) (by omega))
      have hpos : 4 * (31 - (31 - j / 4)) + j % 4 = j := by omega
      have hlt : j % 4 < 4 := Nat.mod_lt _ (by decide)
      have h16 : (16 : ℕ) = 2 ^ 4 := rfl
      simpa only [h16, Nat.testBit_mod_two_pow, Nat.testBit_shiftRight, hpos, hlt, decide_true,
        Bool.true_and] using hbit
    · have hlt : ∀ w : UUID, w.int.toNat < 2 ^ j := fun w =>
        lt_of_lt_of_le w.int.isLt (Nat.pow_le_pow_right (by decide) (by omega))
      rw [Nat.testBit_lt_two_pow (hlt u), Nat.testBit_lt_two_pow (hlt v)]
  cases u
  cases v
  exact congrArg UUID.mk (BitVec.eq_of_toNat_eq hint)

/-! ## Timestamps -/

/-- A datetime: microseconds since the epoch and, for an aware one, its offset from UTC in
microseconds.  A naive datetime counts its own wall clock. -/
structure DateTime where
  instant : ℤ
  tzinfo : Option ℤ
  deriving DecidableEq, Repr

namespace DateTime

/-- A timestamp in UTC. -/
def utc (instant : ℤ) : DateTime := ⟨instant, some 0⟩

/-- Year, month and day of a day number, where day 0 is the first of January 1970. -/
def civil (day : ℤ) : ℤ × ℤ × ℤ :=
  -- years are counted from March, in eras of 400 years
  let z := day + 719468
  let era := z / 146097
  let doe := z % 146097
  let yoe := (doe - doe / 1460 + doe / 36524 - doe / 146096) / 365
  let doy := doe - (365 * yoe + yoe / 4 - yoe / 100)
  let mp := (5 * doy + 2) / 153
  let m := if mp < 10 then mp + 3 else mp - 9
  (yoe + era * 400 + (if m ≤ 2 then 1 else 0), m, doy - (153 * mp + 2) / 5 + 1)

/-- Hours, minutes and seconds, with microseconds where there are any. -/
def clock (microseconds : ℤ) (seconds : Bool) : String :=
  let s := microseconds / 1000000
  let hm := zeroPad 2 (s / 3600).toNat ++ ":" ++ zeroPad 2 (s / 60 % 60).toNat
  let ss := ":" ++ zeroPad 2 (s % 60).toNat
  let us := microseconds % 1000000
  if us ≠ 0 then hm ++ ss ++ "." ++ zeroPad 6 us.toNat
  else if seconds ∨ s % 60 ≠ 0 then hm ++ ss
  else hm

/-- `datetime.isoformat`. -/
def isoformat (t : DateTime) : String :=
  let wall := t.instant + t.tzinfo.getD 0
  let (y, m, d) := civil (wall / 86400000000)
  let zone := match t.tzinfo with
    | none => ""
    | some o => (if o < 0 then "-" else "+") ++ clock o.natAbs false
  zeroPad 4 y.toNat ++ "-" ++ zeroPad 2 m.toNat ++ "-" ++ zeroPad 2 d.toNat ++ "T" ++
    clock (wall % 86400000000) true ++ zone

/-- `t + timedelta(hours=h)`. -/
def addHours (t : DateTime) (h : ℤ) : DateTime := { t with instant := t.instant + h * 3600000000 }

/-- The number that a row of decimal digits stands for. -/
def number? (digits : List Char) : Option ℤ :=
  if digits.all Char.isDigit then
    some (digits.foldl (fun n c => 10 * n + (c.toNat - '0'.toNat)) 0)
  else none

/-- The day number of a date; the inverse of `civil` on valid dates. -/
def dayNumber (y m d : ℤ) : ℤ :=
  let y := if m ≤ 2 then y - 1 else y
  let era := y / 400
  let yoe := y - era * 400
  let doy := (153 * ((m + 9) % 12) + 2) / 5 + d - 1
  era * 146097 + (yoe * 365 + yoe / 4 - yoe / 100 + doy) - 719468

/-- The microseconds of a time of day, as `clock` writes it. -/
def clock? : List Char → Option ℤ
  | h₁ :: h₂ :: ':' :: m₁ :: m₂ :: rest => do
      let h ← number? [h₁, h₂]
      let m ← number? [m₁, m₂]
      guard (h < 24 ∧ m < 60)
      match rest with
      | [] => some (h * 3600000000 + m * 60000000)
      | ':' :: s₁ :: s₂ :: rest => do
          let s ← number? [s₁, s₂]
          guard (s < 60)
          match rest with
          | [] => some (h * 3600000000 + m * 60000000 + s * 1000000)
          | '.' :: digits => do
              guard (digits.length = 6)
              let us ← number? digits
              some (h * 3600000000 + m * 60000000 + s * 1000000 + us)
          | _ => none
      | _ => none
  | _ => none

/-- `datetime.fromisoformat`, on the format that `isoformat` writes; `none` stands for the
`ValueError`. -/
def fromisoformat? (s : String) : Option DateTime :=
  match s.toList with
  | y₁ :: y₂ :: y₃ :: y₄ :: '-' :: m₁ :: m₂ :: '-' :: d₁ :: d₂ :: _ :: rest => do
      let y ← number? [y₁, y₂, y₃, y₄]
      let m ← number? [m₁, m₂]
      let d ← number? [d₁, d₂]
      let day := dayNumber y m d
      guard (1 ≤ y ∧ civil day = (y, m, d))
      let (time, zone) := rest.span fun c => c ≠ '+' ∧ c ≠ '-'
      let wall := day * 86400000000 + (← clock? time)
      match zone with
      | [] => some ⟨wall, none⟩
      | sign :: zone => do
          let distance ← clock? zone
          let offset := if sign = '-' then -distance else distance
          some ⟨wall - offset, some offset⟩
  | _ => none

example : (utc 1777631400000001).isoformat = "2026-05-01T10:30:00.000001+00:00" := by
  decide +kernel

example : fromisoformat? "2026-05-01T12:30:00.000001+02:00" =
    some ⟨1777631400000001, some 7200000000⟩ := by
  decide +kernel

end DateTime

/-! ## Checksums -/

/-- What holds of all characters of a text is decided on that text, not on all characters. -/
instance (priority := 2000) decidableAllChars (l : List Char) (p : Char → Prop)
    [DecidablePred p] : Decidable (∀ c ∈ l, p c) :=
  List.decidableBAll p l

/-- Sixty-four characters from `0-9a-f`. -/
def IsHex64 (s : List Char) : Prop := s.length = 64 ∧ ∀ c ∈ s, c ∈ Sha256.hexDigits

instance (s : List Char) : Decidable (IsHex64 s) :=
  inferInstanceAs (Decidable (_ ∧ _))

/-- `re.match(r"^[a-f0-9]{64}$", s)`: the `$` also matches before a final newline. -/
def MatchesHex64 (s : String) : Prop :=
  IsHex64 s.toList ∨ (IsHex64 (s.toList.take 64) ∧ s.toList.drop 64 = ['\n'])

instance (s : String) : Decidable (MatchesHex64 s) :=
  inferInstanceAs (Decidable (_ ∨ _))

/-- A SHA-256 checksum in hexadecimal form. -/
structure SHA256Hash where
  value : String
  isHex : IsHex64 value.toList
  deriving DecidableEq

/-- `hashlib.sha256(data).hexdigest()`. -/
def sha256Hexdigest (data : Bytes) : String := Sha256.hexdigest data

theorem isHex64_sha256Hexdigest (data : Bytes) : IsHex64 (sha256Hexdigest data).toList :=
  ⟨Sha256.length_hexdigest data, Sha256.hexdigest_digits data⟩

def SHA256Hash.fromBytes (data : Bytes) : SHA256Hash :=
  ⟨sha256Hexdigest data, isHex64_sha256Hexdigest data⟩

@[simp] theorem SHA256Hash.fromBytes_value (data : Bytes) :
    (SHA256Hash.fromBytes data).value = sha256Hexdigest data := rfl

@[ext] theorem SHA256Hash.ext {a b : SHA256Hash} (h : a.value = b.value) : a = b := by
  cases a
  cases b
  simpa using h

/-! ## Session statuses -/

/-- The lifecycle of an upload session. -/
inductive SessionStatus where
  | pending
  | inProgress
  | complete
  | failed
  | aborted
  deriving DecidableEq, Repr

namespace SessionStatus

def value : SessionStatus → String
  | pending => "pending"
  | inProgress => "in_progress"
  | complete => "complete"
  | failed => "failed"
  | aborted => "aborted"

/-- `SessionStatus(value)`, where `none` stands for the `ValueError`. -/
def ofValue? (s : String) : Option SessionStatus :=
  [pending, inProgress, complete, failed, aborted].find? fun status => status.value = s

/-- The statuses that no upload leaves. -/
def Terminal (s : SessionStatus) : Prop := s = complete ∨ s = failed ∨ s = aborted

instance (s : SessionStatus) : Decidable s.Terminal :=
  inferInstanceAs (Decidable (_ ∨ _))

@[simp] theorem ofValue?_value (s : SessionStatus) : ofValue? s.value = some s := by
  cases s <;> decide

theorem value_injective {s t : SessionStatus} (h : s.value = t.value) : s = t := by
  have := congrArg ofValue? h
  simpa using this

theorem not_terminal_iff (s : SessionStatus) : ¬ s.Terminal ↔ s = pending ∨ s = inProgress := by
  cases s <;> decide

end SessionStatus

end RagFileUploader
