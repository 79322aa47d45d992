import Mathlib

/-!
# Strings with surrogates, and UTF-8

Languages such as Python let a string hold any code points, lone surrogates included, and refuse to
encode one that does.  A `Text` is such a string, a `String` one that can be encoded.
-/

namespace Encoding

abbrev CodePoint := Fin 0x110000

abbrev Text := List CodePoint

namespace CodePoint

def ofChar (c : Char) : CodePoint :=
  ⟨c.toNat, by
    have := c.valid
    simp only [UInt32.isValidChar, Nat.isValidChar] at this
    change c.val.toNat < _
    omega⟩

/-- The character of a code point; surrogates have none. -/
def toChar? (p : CodePoint) : Option Char :=
  if h : p.val.isValidChar then some (Char.ofNatAux p.val h) else none

@[simp] theorem toChar?_ofChar (c : Char) : (ofChar c).toChar? = some c := by
  have hvalid : (ofChar c).val.isValidChar := c.valid
  rw [toChar?, dif_pos hvalid]
  rfl

theorem ofChar_injective : Function.Injective ofChar := fun c c' h => by
  have := congrArg toChar? h
  simpa using this

theorem ofChar_of_toChar? {p : CodePoint} {c : Char} (h : p.toChar? = some c) : ofChar c = p := by
  unfold toChar? at h
  split at h
  · cases h
    rfl
  · cases h

end CodePoint

/-- If `g` undoes `f`, it does so element by element. -/
theorem mapM_of_mapM {α β : Type} {f : α → Option β} {g : β → Option α}
    (hfg : ∀ a b, f a = some b → g b = some a) {l : List α} {l' : List β}
    (h : l.mapM f = some l') : l'.mapM g = some l := by
  induction l generalizing l' with
  | nil =>
      cases h
      rfl
  | cons a l ih =>
      rw [List.mapM_cons] at h
      cases ha : f a with
      | none => rw [ha] at h; cases h
      | some b =>
          cases hl : l.mapM f with
          | none => rw [ha, hl] at h; cases h
          | some bs =>
              rw [ha, hl] at h
              cases h
              rw [List.mapM_cons, hfg a b ha, ih hl]
              rfl

namespace Text

def ofString (s : String) : Text := s.toList.map .ofChar

/-- The string without surrogates that the text is, if it is one. -/
def toString? (t : Text) : Option String := (t.mapM CodePoint.toChar?).map String.ofList

@[simp] theorem toString?_ofString (s : String) : (ofString s).toString? = some s := by
  have hchars : ∀ l : List Char, (l.map CodePoint.ofChar).mapM CodePoint.toChar? = some l := by
    intro l
    induction l with
    | nil => rfl
    | cons c l ih => simp [ih]
  rw [toString?, ofString, hchars, Option.map_some, String.ofList_toList]

theorem ofString_of_toString? {t : Text} {s : String} (h : t.toString? = some s) :
    ofString s = t := by
  unfold toString? at h
  cases hchars : t.mapM CodePoint.toChar? with
  | none => rw [hchars] at h; cases h
  | some l =>
      rw [hchars] at h
      cases h
      have hback : l.mapM (fun c => (pure (CodePoint.ofChar c) : Option CodePoint)) = some t :=
        mapM_of_mapM (fun p c hc => congrArg some (CodePoint.ofChar_of_toChar? hc)) hchars
      rw [List.mapM_pure] at hback
      rw [ofString, String.toList_ofList]
      exact Option.some.inj hback

/-- Different strings are different texts. -/
theorem ofString_injective : Function.Injective ofString := fun s s' h => by
  have := congrArg toString? h
  simpa using this

/-- For messages: the text with a replacement character for each surrogate. -/
def display (t : Text) : String := String.ofList (t.map fun p => p.toChar?.getD '\ufffd')

@[simp] theorem display_ofString (s : String) : (ofString s).display = s := by
  simp [display, ofString, Function.comp_def]

/-! ## UTF-8 -/

/-- `t.encode()`; `none` stands for the exception. -/
def encode (t : Text) : Option ByteArray := t.toString?.map String.toUTF8

/-- `b.decode()`. -/
def decode (b : ByteArray) : Option Text := (String.fromUTF8? b).map ofString

def Encodable (t : Text) : Prop := t.encode ≠ none

instance (t : Text) : Decidable t.Encodable := inferInstanceAs (Decidable (_ ≠ _))

theorem encodable_ofString (s : String) : (ofString s).Encodable := by
  rw [Encodable, encode, toString?_ofString]
  nofun

theorem decode_of_encode {t : Text} {b : ByteArray} (h : t.encode = some b) :
    decode b = some t := by
  unfold encode at h
  cases hs : t.toString? with
  | none => rw [hs] at h; cases h
  | some s =>
      rw [hs] at h
      cases h
      have hutf8 : String.fromUTF8? s.toUTF8 = some s := by
        rw [String.toUTF8_eq_toByteArray, String.fromUTF8?, dif_pos s.isValidUTF8]
        rfl
      rw [decode, hutf8, Option.map_some, ofString_of_toString? hs]

end Text

end Encoding
