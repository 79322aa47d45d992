import RagFileUploader.Encoding.Text

/-!
# Literals in texts

Replacing and stripping in a text, and the integers that a text stands for, as `str.replace`,
`str.strip` and `int` have them.
-/

namespace Encoding

/-! ## Replacing -/

section Replace

variable {α : Type} [DecidableEq α]

/-- Walks over a text, past the `skip` elements that belong to an occurrence. -/
def replaceFrom (old new : List α) : ℕ → List α → List α
  | _, [] => []
  | skip + 1, _ :: rest => replaceFrom old new skip rest
  | 0, a :: rest =>
      if old <+: a :: rest then new ++ replaceFrom old new (old.length - 1) rest
      else a :: replaceFrom old new 0 rest

/-- Every occurrence of a nonempty `old`, from the left and without overlaps. -/
def replace (old new s : List α) : List α := replaceFrom old new 0 s

variable {old new s : List α} {a : α}

/-- There is nothing to replace where an element of `old` is missing. -/
theorem replace_of_notMem (hold : a ∈ old) (hs : a ∉ s) : replace old new s = s := by
  unfold replace
  induction s with
  | nil => rfl
  | cons b s ih =>
      have hno : ¬ old <+: b :: s := fun h => hs (h.subset hold)
      rw [replaceFrom, if_neg hno, ih fun hmem => hs (List.mem_cons_of_mem _ hmem)]

/-- Replacing a single element is done element by element. -/
theorem replace_singleton : replace [a] new s = s.flatMap fun b => if b = a then new else [b] := by
  unfold replace
  induction s with
  | nil => rfl
  | cons b s ih =>
      have hleading : [a] <+: b :: s ↔ b = a := by
        rw [List.cons_prefix_cons]
        exact ⟨fun h => h.1.symm, fun h => ⟨h.symm, List.nil_prefix⟩⟩
      rw [List.flatMap_cons, ← ih, replaceFrom]
      by_cases hb : b = a
      · rw [if_pos (hleading.mpr hb), if_pos hb]
        rfl
      · rw [if_neg fun h => hb (hleading.mp h), if_neg hb]
        rfl

/-- Replacing by nothing leaves the other elements. -/
theorem replace_nil : replace [a] [] s = s.filter (· ≠ a) := by
  rw [replace_singleton]
  induction s with
  | nil => rfl
  | cons b s ih =>
      rw [List.flatMap_cons, ih, List.filter_cons]
      by_cases hb : b = a
      · simp [hb]
      · simp [hb]

/-- A new mark that stands for `old` can be replaced by `old` again. -/
theorem replace_replace (hold : old ≠ []) (hs : a ∉ s) :
    replace [a] old (replace old [a] s) = s := by
  rw [replace_singleton]
  -- what has been skipped has come back already
  have hgeneral : ∀ (s : List α) (skip : ℕ), a ∉ s →
      (replaceFrom old [a] skip s).flatMap (fun b => if b = a then old else [b]) =
        s.drop skip := by
    intro s
    induction s with
    | nil =>
        intro skip _
        rw [List.drop_nil]
        cases skip <;> rfl
    | cons b s ih =>
        intro skip hs
        have hb : a ≠ b := fun heq => hs (heq ▸ List.mem_cons_self)
        replace hs : a ∉ s := fun hmem => hs (List.mem_cons_of_mem _ hmem)
        cases skip with
        | succ skip => exact ih skip hs
        | zero =>
            rw [replaceFrom]
            split
            · next hleading =>
                obtain ⟨c, old', rfl⟩ := List.exists_cons_of_ne_nil hold
                obtain ⟨rfl, -⟩ := List.cons_prefix_cons.mp hleading
                have hback : (c :: old') ++ s.drop old'.length = c :: s :=
                  List.prefix_iff_eq_append.mp hleading
                rw [List.flatMap_append, ih _ hs]
                simpa using hback
            · rw [List.flatMap_cons, ih 0 hs, if_neg fun h => hb h.symm]
              rfl
  exact hgeneral s 0 hs

end Replace

/-! ## Stripping -/

/-- `s` without the elements at either end that satisfy `p`. -/
def strip {α : Type} (p : α → Bool) (s : List α) : List α := (s.dropWhile p).rdropWhile p

theorem strip_eq_self {α : Type} {p : α → Bool} {s : List α} (h : ∀ a ∈ s, p a = false) :
    strip p s = s := by
  have hdrop : s.dropWhile p = s := by
    cases s with
    | nil => rfl
    | cons a s => rw [List.dropWhile_cons, h a List.mem_cons_self]; rfl
  rw [strip, hdrop, List.rdropWhile_eq_self_iff]
  intro hne
  rw [h _ (List.getLast_mem hne)]
  exact Bool.false_ne_true

/-! ## Integers -/

/-- The zeros of the rows of ten decimal digits that Unicode 15.1 has. -/
def decimalZeros : List ℕ :=
  [0x30, 0x660, 0x6f0, 0x7c0, 0x966, 0x9e6, 0xa66, 0xae6, 0xb66, 0xbe6, 0xc66, 0xce6, 0xd66, 0xde6,
    0xe50, 0xed0, 0xf20, 0x1040, 0x1090, 0x17e0, 0x1810, 0x1946, 0x19d0, 0x1a80, 0x1a90, 0x1b50,
    0x1bb0, 0x1c40, 0x1c50, 0xa620, 0xa8d0, 0xa900, 0xa9d0, 0xa9f0, 0xaa50, 0xabf0, 0xff10, 0x104a0,
    0x10d30, 0x11066, 0x110f0, 0x11136, 0x111d0, 0x112f0, 0x11450, 0x114d0, 0x11650, 0x116c0,
    0x11730, 0x118e0, 0x11950, 0x11c50, 0x11d50, 0x11da0, 0x11f50, 0x16a60, 0x16ac0, 0x16b50,
    0x1d7ce, 0x1d7d8, 0x1d7e2, 0x1d7ec, 0x1d7f6, 0x1e140, 0x1e2f0, 0x1e4f0, 0x1e950, 0x1fbf0]

/-- The value of a digit, of which those above nine are letters of ASCII. -/
def digitValue (base : ℕ) (p : CodePoint) : Option ℕ :=
  let value : Option ℕ :=
    if 97 ≤ p.val ∧ p.val ≤ 122 then some (p.val - 87)
    else if 65 ≤ p.val ∧ p.val ≤ 90 then some (p.val - 55)
    else (decimalZeros.find? fun o => o ≤ p.val ∧ p.val ≤ o + 9).map (p.val - ·)
  value.filter (· < base)

/-- Whitespace around an integer.  The four separators of ASCII do not count. -/
def isIntSpace (p : CodePoint) : Bool :=
  (9 ≤ p.val && p.val ≤ 13) || p.val == 32 || p.val == 0x85 || p.val == 0xa0 || p.val == 0x1680 ||
    (0x2000 ≤ p.val && p.val ≤ 0x200a) || p.val == 0x2028 || p.val == 0x2029 || p.val == 0x202f ||
    p.val == 0x205f || p.val == 0x3000

/-- The values of a row of digits.  A single underscore may stand between two digits. -/
def digits? (base : ℕ) (afterDigit : Bool) : Text → Option (List ℕ)
  | [] => if afterDigit then some [] else none
  | p :: rest =>
      if p = .ofChar '_' then
        if afterDigit then digits? base false rest else none
      else do
        let d ← digitValue base p
        let ds ← digits? base true rest
        some (d :: ds)

/-- The base is given, but the digits may carry it in front. -/
def dropBase (base : ℕ) (s : Text) : Text :=
  match s with
  | o :: x :: rest =>
      if base = 16 ∧ o = .ofChar '0' ∧ (x = .ofChar 'x' ∨ x = .ofChar 'X') then
        match rest with
        | u :: rest' => if u = .ofChar '_' then rest' else rest
        | [] => rest
      else s
  | _ => s

/-- `int(s, base)`, for bases ten and sixteen.  Only numbers in base ten may be too long. -/
def int? (base : ℕ) (s : Text) : Option ℤ := do
  let s := strip isIntSpace s
  let negative : Bool := s.head? = some (.ofChar '-')
  let s := if negative ∨ s.head? = some (.ofChar '+') then s.tail else s
  let ds ← digits? base false (dropBase base s)
  guard (base = 16 ∨ ds.length ≤ 4300)
  let n := ds.foldl (fun n d => base * n + d) 0
  some (if negative then -n else n)

example : int? 10 (Text.ofString " -1_024\n") = some (-1024) := by decide +kernel

example : int? 16 (Text.ofString "0xff") = some 255 := by decide +kernel

/-! ## Rows of digits -/

/-- Reads a number back: a sign, then the value of the digits. -/
def signedValue : List Char → ℤ
  | '-' :: digits => -(Nat.ofDigitChars 10 digits 0 : ℤ)
  | digits => Nat.ofDigitChars 10 digits 0

/-- Different numbers are written differently. -/
theorem toString_int_injective {a b : ℤ} (h : toString a = toString b) : a = b := by
  have hread : ∀ a : ℤ, signedValue (toString a).toList = a := by
    intro a
    change signedValue (Int.repr a).toList = a
    rw [Int.repr_eq_if]
    split
    · next hpos =>
        rw [Nat.toList_repr]
        have hdigits : signedValue (Nat.toDigits 10 a.toNat) =
            (Nat.ofDigitChars 10 (Nat.toDigits 10 a.toNat) 0 : ℕ) := by
          cases hd : Nat.toDigits 10 a.toNat with
          | nil => rfl
          | cons c rest =>
              have hc : c.isDigit := Nat.isDigit_of_mem_toDigits (by decide) (by decide)
                (hd ▸ List.mem_cons_self)
              by_cases hsign : c = '-'
              · subst hsign
                exact absurd hc (by decide)
              · simp only [signedValue]
                split
                · next h => exact absurd (List.cons.inj h).1 hsign
                · rfl
        rw [hdigits, Nat.ofDigitChars_ten_toDigits]
        omega
    · next hneg =>
        rw [String.toList_append, Nat.toList_repr]
        change -((Nat.ofDigitChars 10 (Nat.toDigits 10 (-a).toNat) 0 : ℕ) : ℤ) = a
        rw [Nat.ofDigitChars_ten_toDigits]
        omega
  rw [← hread a, ← hread b, h]

theorem digits?_of_forall {base : ℕ} {s : Text} {afterDigit : Bool} {value : CodePoint → ℕ}
    (hs : s ≠ [] ∨ afterDigit = true)
    (h : ∀ p ∈ s, digitValue base p = some (value p) ∧ p ≠ .ofChar '_') :
    digits? base afterDigit s = some (s.map value) := by
  induction s generalizing afterDigit with
  | nil => rw [digits?, if_pos (hs.resolve_left (· rfl)), List.map_nil]
  | cons p rest ih =>
      obtain ⟨⟨hp, hscore⟩, hrest⟩ := List.forall_mem_cons.mp h
      rw [digits?, if_neg hscore, hp, ih (.inr rfl) hrest]
      rfl

/-- The marks that may stand beside the digits of a number. -/
def marks : Text := Text.ofString "_-+xX"

theorem dropBase_eq_self {base : ℕ} {s : Text} (h : ∀ p ∈ s, p ∉ marks) : dropBase base s = s := by
  unfold dropBase
  split
  · next o x rest =>
      have hx := h x (List.mem_cons_of_mem _ List.mem_cons_self)
      refine if_neg ?_
      rintro ⟨-, -, rfl | rfl⟩
      · exact hx (by decide)
      · exact hx (by decide)
  · rfl

/-- A row of digits, without anything else, stands for its number. -/
theorem int?_of_forall {base : ℕ} {s : Text} {value : CodePoint → ℕ} (hs : s ≠ [])
    (hlength : base = 16 ∨ s.length ≤ 4300)
    (h : ∀ p ∈ s, digitValue base p = some (value p) ∧ p ∉ marks ∧ isIntSpace p = false) :
    int? base s = some ((s.map value).foldl (fun n d => base * n + d) 0 : ℕ) := by
  have hhead (p : CodePoint) (hp : p ∈ marks) : s.head? ≠ some p := fun hhead =>
    (h p (List.mem_of_head? hhead)).2.1 hp
  have hminus := hhead (.ofChar '-') (by decide)
  have hplus := hhead (.ofChar '+') (by decide)
  have hdigits : digits? base false s = some (s.map value) :=
    digits?_of_forall (.inl hs) fun p hp =>
      ⟨(h p hp).1, fun heq => (h p hp).2.1 (heq ▸ by decide)⟩
  have hlength : base = 16 ∨ (s.map value).length ≤ 4300 := by rwa [List.length_map]
  rw [int?, strip_eq_self fun p hp => (h p hp).2.2]
  simp only [hminus, hplus, decide_false, Bool.false_eq_true, or_self, if_false,
    dropBase_eq_self fun p hp => (h p hp).2.1, hdigits, guard, if_pos hlength, bind,
    Option.bind, pure]

end Encoding
