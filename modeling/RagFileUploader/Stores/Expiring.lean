import Mathlib.Logic.Function.Basic
import Mathlib.Order.Basic
import Mathlib.Tactic.Common

/-!
# Key spaces with deadlines

A key space maps keys to entries, and an entry may carry a deadline.  An entry whose deadline
has passed is still in the map but no reader sees it: `find?` takes the reader's clock.  This is
how a store with lazy expiry behaves, and it lets time pass without touching the map.
-/

namespace Stores

variable {K V : Type}

/-- A stored value and the time at which it disappears, if any. -/
structure Entry (V : Type) where
  value : V
  deadline : Option ℕ
  deriving DecidableEq, Repr

/-- At time `now` the entry has not expired. -/
def Entry.Live (now : ℕ) (e : Entry V) : Prop := ∀ d ∈ e.deadline, now < d

instance (now : ℕ) (e : Entry V) : Decidable (e.Live now) :=
  inferInstanceAs (Decidable (∀ d ∈ e.deadline, now < d))

theorem Entry.Live.anti {now now' : ℕ} {e : Entry V} (h : e.Live now') (hle : now ≤ now') :
    e.Live now := fun d hd => Nat.lt_of_le_of_lt hle (h d hd)

@[simp] theorem Entry.live_mk_none (now : ℕ) (v : V) : (Entry.mk v none).Live now := by
  simp [Entry.Live]

@[simp] theorem Entry.live_mk_some (now d : ℕ) (v : V) :
    (Entry.mk v (some d)).Live now ↔ now < d := by
  simp [Entry.Live]

/-- Entries by key. -/
abbrev Keyspace (K V : Type) := K → Option (Entry V)

namespace Keyspace

variable {m : Keyspace K V} {now now' : ℕ} {k k' : K} {e : Entry V} {v : V} {d : Option ℕ}

/-- The entry that a reader sees at time `now`. -/
def find? (m : Keyspace K V) (now : ℕ) (k : K) : Option (Entry V) :=
  (m k).filter fun e => e.Live now

/-- The value that a reader sees at time `now`. -/
def get? (m : Keyspace K V) (now : ℕ) (k : K) : Option V :=
  (m.find? now k).map Entry.value

theorem find?_eq_some_iff : m.find? now k = some e ↔ m k = some e ∧ e.Live now := by
  simp [find?, Option.filter_eq_some_iff]

theorem find?_congr {m' : Keyspace K V} (h : m k = m' k) : m.find? now k = m'.find? now k := by
  simp [find?, h]

theorem get?_congr {m' : Keyspace K V} (h : m k = m' k) : m.get? now k = m'.get? now k := by
  simp [get?, find?_congr h]

theorem get?_eq_some_iff :
    m.get? now k = some v ↔ ∃ d, m k = some ⟨v, d⟩ ∧ (Entry.mk v d).Live now := by
  constructor
  · intro h
    obtain ⟨e, he, rfl⟩ := Option.map_eq_some_iff.mp h
    exact ⟨e.deadline, find?_eq_some_iff.mp he⟩
  · rintro ⟨d, h⟩
    simp [get?, find?_eq_some_iff.mpr h]

/-- What a reader sees late, every earlier reader sees too. -/
theorem find?_anti (h : m.find? now' k = some e) (hle : now ≤ now') : m.find? now k = some e := by
  rw [find?_eq_some_iff] at h ⊢
  exact ⟨h.1, h.2.anti hle⟩

variable [DecidableEq K]

/-- Store a value under `k` with a fresh deadline, whatever was there. -/
def put (m : Keyspace K V) (k : K) (v : V) (deadline : Option ℕ) : Keyspace K V :=
  Function.update m k (some ⟨v, deadline⟩)

/-- Store a value under `k` and keep the deadline of the entry that is live there.  Without such
an entry the new one never expires. -/
def overwrite (m : Keyspace K V) (now : ℕ) (k : K) (v : V) : Keyspace K V :=
  m.put k v ((m.find? now k).bind Entry.deadline)

/-- Remove the entry under `k`. -/
def erase (m : Keyspace K V) (k : K) : Keyspace K V := Function.update m k none

@[simp] theorem put_self : m.put k v d k = some ⟨v, d⟩ := by simp [put]

@[simp] theorem put_of_ne (h : k' ≠ k) : m.put k v d k' = m k' := by simp [put, h]

@[simp] theorem overwrite_of_ne (h : k' ≠ k) : m.overwrite now k v k' = m k' :=
  put_of_ne h

/-- Overwriting a live entry changes its value only. -/
theorem overwrite_self (h : m.find? now k = some e) :
    m.overwrite now k v k = some ⟨v, e.deadline⟩ := by
  simp [overwrite, h]

@[simp] theorem erase_self : m.erase k k = none := by simp [erase]

@[simp] theorem erase_of_ne (h : k' ≠ k) : m.erase k k' = m k' := by simp [erase, h]

/-- An entry is the one that was put there, or it was there before under another key. -/
theorem of_put_eq_some (h : m.put k v d k' = some e) :
    k' = k ∧ e = ⟨v, d⟩ ∨ k' ≠ k ∧ m k' = some e := by
  by_cases hkey : k' = k
  · subst hkey
    exact .inl ⟨rfl, (Option.some.inj (put_self.symm.trans h)).symm⟩
  · exact .inr ⟨hkey, (put_of_ne hkey).symm.trans h⟩

/-- What an erasure leaves was there before, under another key. -/
theorem of_erase_eq_some (h : m.erase k k' = some e) : k' ≠ k ∧ m k' = some e := by
  have hne : k' ≠ k := by
    rintro rfl
    cases erase_self.symm.trans h
  exact ⟨hne, (erase_of_ne hne).symm.trans h⟩

/-- Whoever overwrites a key can read it back. -/
theorem get?_overwrite_self : (m.overwrite now k v).get? now k = some v := by
  refine get?_eq_some_iff.mpr ⟨_, put_self, ?_⟩
  cases h : m.find? now k with
  | none => exact Entry.live_mk_none now v
  | some e => exact (find?_eq_some_iff.mp h).2

theorem get?_put_self (h : ∀ t ∈ d, now < t) : (m.put k v d).get? now k = some v :=
  get?_eq_some_iff.mpr ⟨d, put_self, h⟩

theorem find?_overwrite_self (h : m.find? now k = some e) :
    (m.overwrite now k v).find? now k = some ⟨v, e.deadline⟩ := by
  rw [find?_eq_some_iff] at h ⊢
  exact ⟨overwrite_self (find?_eq_some_iff.mpr h), h.2⟩

/-- The second of two overwrites wins, with the deadline that was there first. -/
theorem overwrite_overwrite {v' : V} :
    (m.overwrite now k v).overwrite now k v' = m.overwrite now k v' := by
  have hdeadline : ((m.overwrite now k v).find? now k).bind Entry.deadline =
      (m.find? now k).bind Entry.deadline := by
    cases h : m.find? now k with
    | none =>
        have hput : m.overwrite now k v = m.put k v none := by rw [overwrite, h]; rfl
        rw [hput, find?_eq_some_iff.mpr ⟨put_self, Entry.live_mk_none now v⟩]
        rfl
    | some e => simp [find?_overwrite_self h]
  unfold overwrite at hdeadline ⊢
  rw [hdeadline]
  simp [put]

end Keyspace

end Stores
