import RagFileUploader.Domain.UploadSession
import RagFileUploader.Encoding.Json
import RagFileUploader.Encoding.Literals

/-!
# Values of any type

What the service does with JSON values before it has looked at their types: it takes items of them,
calls methods on them, and makes identifiers of them.  `UUID(...)` reads many spellings, and that of
`str` gives the identifier back.
-/

namespace RagFileUploader

open Encoding Hashing

/-- `items[key]`, for a dictionary. -/
def item (items : List (Text × Json)) (key : String) : Except Exc Json :=
  match Json.get? items key with
  | some value => .ok value
  | none => .error (.keyError key)

theorem item_eq_ok {items : List (Text × Json)} {key : String} {value : Json} :
    item items key = .ok value ↔ Json.get? items key = some value := by
  unfold item
  split <;> simp_all

/-- `value[key]`. -/
def subscript (value : Json) (key : String) : Except Exc Json :=
  match value with
  | .dict items => item items key
  | .list _ => .error (.typeError "list indices must be integers or slices, not str")
  | .str _ => .error (.typeError "string indices must be integers, not 'str'")
  | value => .error (.typeError s!"'{value.typeName}' object is not subscriptable")

/-- A method is called that the value does not have. -/
def noAttribute (value : Json) (method : String) : Exc :=
  .attributeError s!"'{value.typeName}' object has no attribute '{method}'"

/-- The sixteen bytes that a text spells, as `UUID` reads it. -/
def UUID.parse (text : Text) : Except Exc UUID :=
  let bare : Text := replace (Text.ofString "uuid:") [] (replace (Text.ofString "urn:") [] text)
  let digits : Text :=
    replace [.ofChar '-'] [] (Encoding.strip (· ∈ Text.ofString "\x7b\x7d") bare)
  if digits.length ≠ 32 then .error (.valueError "badly formed hexadecimal UUID string")
  else
    match int? 16 digits with
    | none => .error (.valueError s!"invalid literal for int() with base 16: '{digits.display}'")
    | some n =>
        if 0 ≤ n ∧ n < 2 ^ 128 then .ok ⟨.ofNat 128 n.toNat⟩
        else .error (.valueError "int is out of range (need a 128-bit value)")

/-- `UUID(value)`.  The text is taken for one before its type is looked at. -/
def UUID.ofJson : Json → Except Exc UUID
  | .str text => UUID.parse text
  | .null => .error (.typeError
      "one of the hex, bytes, bytes_le, fields, or int arguments must be given")
  | value => .error (noAttribute value "replace")

theorem UUID.ofJson_eq_ok {value : Json} {id : UUID} :
    UUID.ofJson value = .ok id ↔ ∃ text, value = .str text ∧ UUID.parse text = .ok id := by
  cases value <;> simp [UUID.ofJson]

/-- `UUID` takes texts for texts, and refuses `None`. -/
def UUID.Readable : Json → Prop
  | .str _ | .null => True
  | _ => False

instance : DecidablePred UUID.Readable
  | .str _ | .null => isTrue trivial
  | .bool _ | .int _ | .float _ | .list _ | .dict _ => isFalse id

/-- An identifier under a key of a dictionary. -/
def UUID.Under (items : List (Text × Json)) (key : String) (id : UUID) : Prop :=
  ∃ text, Json.get? items key = some (.str text) ∧ UUID.parse text = .ok id

/-! ## What is raised -/

/-- `KeyError`, `ValueError` and `TypeError`, which malformed data is known to raise. -/
def isDataError (e : Exc) : Bool := e.isKeyError || e.isValueError || e.isTypeError

/-- Exceptions that are expected of malformed data.  A missing method is not among them. -/
structure Foresees (P : Exc → Bool) : Prop where
  dataError : ∀ e, isDataError e = true → P e = true
  attributeError : ∀ message, P (.attributeError message) = false

theorem foresees_isDataError : Foresees isDataError := ⟨fun _ h => h, fun _ => rfl⟩

variable {P : Exc → Bool}

theorem raises_item (hP : Foresees P) {items : List (Text × Json)} {key : String} :
    Raises P (item items key) := by
  intro e h
  unfold item at h
  split at h <;> cases h
  exact hP.dataError _ rfl

theorem raises_subscript (hP : Foresees P) {value : Json} {key : String} :
    Raises P (subscript value key) := by
  unfold subscript
  split
  · exact raises_item hP
  all_goals exact raises_error (hP.dataError _ rfl)

theorem UUID.isValueError_of_parse {text : Text} {e : Exc} (h : UUID.parse text = .error e) :
    e.isValueError = true := by
  unfold UUID.parse at h
  dsimp only at h
  split at h
  · cases h
    rfl
  · split at h
    · cases h
      rfl
    · split at h
      · cases h
      · cases h
        rfl

/-- A failing `UUID` is foreseen exactly for texts and null. -/
theorem UUID.raises_ofJson_iff (hP : Foresees P) {value : Json} :
    Raises P (UUID.ofJson value) ↔ UUID.Readable value := by
  cases value with
  | str text =>
      refine iff_of_true (fun e h => hP.dataError e ?_) trivial
      simp only [isDataError, UUID.isValueError_of_parse h, Bool.or_true, Bool.true_or]
  | null => exact iff_of_true (raises_error (hP.dataError _ rfl)) trivial
  | _ =>
      refine iff_of_false (fun h => ?_) id
      exact ne_true_of_eq_false (hP.attributeError _) (h _ rfl)

/-! ## Reading the canonical form -/

namespace UUID

variable (u : UUID)

theorem digits_append (start m n : ℕ) :
    u.digits start m ++ u.digits (start + m) n = u.digits start (m + n) := by
  simp only [digits, List.range_add, List.map_append, List.map_map]
  congr 1
  refine List.map_congr_left fun i _ => ?_
  simp only [Function.comp_apply, Nat.add_assoc]

/-- The hexadecimal digits from the first on add up to the leading bits. -/
theorem foldl_nibbles {x : ℕ} (hx : x < 2 ^ 128) {count : ℕ} (hcount : count ≤ 32) :
    ((List.range count).map fun i => (x >>> (4 * (31 - i))) % 16).foldl
      (fun n d => 16 * n + d) 0 = x >>> (4 * (32 - count)) := by
  induction count with
  | zero =>
      rw [Nat.shiftRight_eq_div_pow]
      exact (Nat.div_eq_of_lt hx).symm
  | succ count ih =>
      have hshift : x >>> (4 * (32 - count)) = x >>> (4 * (31 - count)) / 16 := by
        have hbits : 4 * (32 - count) = 4 * (31 - count) + 4 := by omega
        rw [hbits, Nat.shiftRight_add, Nat.shiftRight_eq_div_pow _ 4]
      have hlast : 32 - (count + 1) = 31 - count := by omega
      rw [List.range_succ, List.map_append, List.foldl_append, ih (by omega), hshift, hlast]
      exact Nat.div_add_mod _ 16

theorem digitValue_hexDigit {n : ℕ} (hn : n < 16) :
    digitValue 16 (.ofChar (Sha256.hexDigit n)) = some n := by
  have hall : ∀ n < 16, digitValue 16 (.ofChar (Sha256.hexDigit n)) = some n := by decide
  exact hall n hn

/-- What the readers of a text look for is no hexadecimal digit. -/
theorem hexDigit_plain {n : ℕ} (hn : n < 16) :
    Sha256.hexDigit n ∉ ['u', '-', '\x7b', '\x7d'] ∧
      CodePoint.ofChar (Sha256.hexDigit n) ∉ marks ∧
        isIntSpace (.ofChar (Sha256.hexDigit n)) = false := by
  have hall : ∀ n < 16, Sha256.hexDigit n ∉ ['u', '-', '\x7b', '\x7d'] ∧
      CodePoint.ofChar (Sha256.hexDigit n) ∉ marks ∧
        isIntSpace (.ofChar (Sha256.hexDigit n)) = false := by decide
  exact hall n hn

theorem exists_of_mem_digits {u : UUID} {start count : ℕ} {c : Char}
    (h : c ∈ u.digits start count) : ∃ n < 16, Sha256.hexDigit n = c := by
  obtain ⟨i, -, rfl⟩ := List.mem_map.mp h
  exact ⟨_, Nat.mod_lt _ (by decide), rfl⟩

theorem mem_str {c : Char} (h : c ∈ u.str.toList) :
    c = '-' ∨ ∃ n < 16, Sha256.hexDigit n = c := by
  simp only [str, String.toList_ofList, List.mem_append, List.mem_cons] at h
  rcases h with (((h | rfl | h) | rfl | h) | rfl | h) | rfl | h
  · exact .inr (exists_of_mem_digits h)
  · exact .inl rfl
  · exact .inr (exists_of_mem_digits h)
  · exact .inl rfl
  · exact .inr (exists_of_mem_digits h)
  · exact .inl rfl
  · exact .inr (exists_of_mem_digits h)
  · exact .inl rfl
  · exact .inr (exists_of_mem_digits h)

theorem notMem_str {c : Char} (hc : c ∈ ['u', '\x7b', '\x7d']) :
    CodePoint.ofChar c ∉ Text.ofString u.str := by
  intro hmem
  obtain ⟨c', hmem', heq⟩ := List.mem_map.mp hmem
  obtain rfl := CodePoint.ofChar_injective heq
  rcases u.mem_str hmem' with rfl | ⟨n, hn, rfl⟩
  · exact absurd hc (by decide)
  · have hsubset : ['u', '\x7b', '\x7d'] ⊆ ['u', '-', '\x7b', '\x7d'] := by decide
    exact (hexDigit_plain hn).1 (hsubset hc)

/-- Without its hyphens the canonical form is the row of all thirty-two digits. -/
theorem replace_hyphens :
    replace [.ofChar '-'] [] (Text.ofString u.str) = (u.digits 0 32).map .ofChar := by
  have hgroup (start count : ℕ) : ((u.digits start count).map CodePoint.ofChar).filter
      (· ≠ .ofChar '-') = (u.digits start count).map .ofChar := by
    refine List.filter_eq_self.mpr fun p hp => ?_
    obtain ⟨c, hc, rfl⟩ := List.mem_map.mp hp
    obtain ⟨n, hn, rfl⟩ := exists_of_mem_digits hc
    refine decide_eq_true fun heq => (hexDigit_plain hn).1 ?_
    rw [CodePoint.ofChar_injective heq]
    decide
  have hhyphen (l : Text) : (CodePoint.ofChar '-' :: l).filter (· ≠ .ofChar '-') =
      l.filter (· ≠ .ofChar '-') := List.filter_cons_of_neg (by decide)
  rw [replace_nil, Text.ofString, str, String.toList_ofList]
  simp only [List.map_append, List.map_cons, List.filter_append, hgroup, hhyphen]
  simp only [← List.map_append]
  rw [u.digits_append 0 8 4, u.digits_append 0 12 4, u.digits_append 0 16 4,
    u.digits_append 0 20 12]

/-- The digits of an identifier stand for its number. -/
theorem int?_digits : int? 16 ((u.digits 0 32).map .ofChar) = some (u.int.toNat : ℤ) := by
  let value (p : CodePoint) : ℕ := (digitValue 16 p).getD 0
  have hvalue {n : ℕ} (hn : n < 16) : value (.ofChar (Sha256.hexDigit n)) = n := by
    change (digitValue 16 _).getD 0 = n
    rw [digitValue_hexDigit hn, Option.getD_some]
  have hmap : ((u.digits 0 32).map CodePoint.ofChar).map value =
      (List.range 32).map fun i => (u.int.toNat >>> (4 * (31 - i))) % 16 := by
    rw [digits, List.map_map, List.map_map]
    refine List.map_congr_left fun i _ => ?_
    simp only [Function.comp_apply, Nat.zero_add]
    exact hvalue (Nat.mod_lt _ (by decide))
  have hne : (u.digits 0 32).map CodePoint.ofChar ≠ [] := by
    refine List.ne_nil_of_length_pos ?_
    rw [List.length_map, length_digits]
    decide
  rw [int?_of_forall hne (.inl rfl) fun p hp => ?_, hmap,
    foldl_nibbles u.int.isLt (le_refl 32)]
  · rfl
  · obtain ⟨c, hc, rfl⟩ := List.mem_map.mp hp
    obtain ⟨n, hn, rfl⟩ := exists_of_mem_digits hc
    rw [hvalue hn]
    exact ⟨digitValue_hexDigit hn, (hexDigit_plain hn).2⟩

/-- `UUID(str(u))` is `u`. -/
theorem parse_str : UUID.parse (.ofString u.str) = .ok u := by
  have hurn : replace (Text.ofString "urn:") [] (Text.ofString u.str) = Text.ofString u.str :=
    replace_of_notMem (a := CodePoint.ofChar 'u') (by decide) (u.notMem_str (by decide))
  have huuid : replace (Text.ofString "uuid:") [] (Text.ofString u.str) = Text.ofString u.str :=
    replace_of_notMem (a := CodePoint.ofChar 'u') (by decide) (u.notMem_str (by decide))
  have hstrip : Encoding.strip (fun p => p ∈ Text.ofString "\x7b\x7d") (Text.ofString u.str) =
      Text.ofString u.str := by
    refine strip_eq_self fun p hp => decide_eq_false fun hmem => ?_
    obtain ⟨c, hc, rfl⟩ := List.mem_map.mp hmem
    exact u.notMem_str (List.mem_cons_of_mem _ hc) hp
  have hrange : (0 : ℤ) ≤ u.int.toNat ∧ (u.int.toNat : ℤ) < 2 ^ 128 :=
    ⟨Int.natCast_nonneg _, by exact_mod_cast u.int.isLt⟩
  unfold UUID.parse
  simp only [hurn, huuid, hstrip, replace_hyphens, int?_digits, List.length_map, length_digits]
  rw [if_neg (by decide)]
  simp only [if_pos hrange, Int.toNat_natCast, BitVec.ofNat_toNat, BitVec.setWidth_eq]

end UUID

end RagFileUploader
