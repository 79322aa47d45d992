import RagFileUploader.Infrastructure.Service

/-!
# The lifecycle of the entity

The methods of `UploadSession` change an object in place, and one that raises keeps what it has
assigned until then.  `Method` is such a method.  `Mutation.method_run` shows that on a valid object
the methods are the functions of `Domain/UploadSession.lean`, which return the new session, and from
there on the lifecycle is a matter of these functions.

A terminal session is left by `mark_aborted`, which is meant, and by `mark_failed`, which has no
guard.

* `mutate_cases` says once what a call that returns can change, and `Orderly` is the invariant of
  the entity under its methods.
* `followsRules_iff` settles one call on an orderly session, `along_iff` takes it along all calls,
  and `lifecycle_iff` starts from a new entity.
-/

namespace RagFileUploader

/-! ## Methods on an object -/

/-- A method that may change the object; an exception keeps the object as it is then. -/
abbrev Method := EStateM Exc SessionFields

namespace Method

def addChunk (chunkIndex chunkSize : ℤ) (chunkChecksum : String) : Method Unit := do
  raiseIf (chunkIndex < 0) (.valueError "chunk_index must be >= 0")
  raiseIf (chunkSize ≤ 0) (.valueError "chunk_size must be > 0")
  raiseIf (isBlank chunkChecksum) (.valueError "chunk_checksum cannot be empty")
  raiseIf (∃ c ∈ (← get).chunkManifest, c.index = chunkIndex)
    (.valueError s!"chunk_index {chunkIndex} already exists in manifest")
  modify fun self => { self with
    chunkManifest := self.chunkManifest ++ [⟨chunkIndex, chunkSize, chunkChecksum⟩] }

def updateOffset (newOffset : ℤ) : Method Unit := do
  raiseIf (newOffset < 0) (.valueError "new_offset must be >= 0")
  raiseIf (newOffset < (← get).offset)
    (.valueError "cannot decrease offset (non-monotonic update)")
  raiseIf (newOffset > (← get).size) (.valueError "new_offset must be <= size")
  modify fun self => { self with offset := newOffset }

def setStatus (status : SessionStatus) : Method Unit :=
  modify fun self => { self with status := status }

def markInProgress : Method Unit := do
  let status := (← get).status
  raiseIf status.Terminal (.valueError
    s!"Cannot transition from {status.value} to IN_PROGRESS (invalid state transition)")
  setStatus .inProgress

def markComplete : Method Unit := do
  let status := (← get).status
  raiseIf status.Terminal (.valueError
    s!"Cannot transition from {status.value} to COMPLETE (invalid state transition)")
  raiseIf ((← get).offset < (← get).size) (.valueError "Cannot mark complete: offset < size")
  setStatus .complete

def markFailed : Method Unit := setStatus .failed

def markAborted : Method Unit := setStatus .aborted

end Method

/-- A call of one of the six methods that change a session. -/
inductive Mutation where
  | addChunk (chunkIndex chunkSize : ℤ) (chunkChecksum : String)
  | updateOffset (newOffset : ℤ)
  | markInProgress
  | markComplete
  | markFailed
  | markAborted
  deriving DecidableEq

namespace Mutation

def method : Mutation → Method Unit
  | addChunk chunkIndex chunkSize chunkChecksum =>
      Method.addChunk chunkIndex chunkSize chunkChecksum
  | updateOffset newOffset => Method.updateOffset newOffset
  | markInProgress => Method.markInProgress
  | markComplete => Method.markComplete
  | markFailed => Method.markFailed
  | markAborted => Method.markAborted

/-- The object after the call, whether it returns or raises. -/
def apply (m : Mutation) (self : SessionFields) : SessionFields :=
  match m.method.run self with
  | .ok _ self' => self'
  | .error _ self' => self'

/-- The call raises. -/
def Rejected (m : Mutation) (self : SessionFields) : Prop :=
  ∃ e self', m.method.run self = .error e self'

end Mutation

/-- The object after one call after another. -/
def SessionFields.after (self : SessionFields) (calls : List Mutation) : SessionFields :=
  calls.foldl (fun self m => m.apply self) self

/-! ## The same calls on sessions -/

namespace UploadSession

def mutate (s : UploadSession) : Mutation → Except Exc UploadSession
  | .addChunk chunkIndex chunkSize chunkChecksum => s.addChunk chunkIndex chunkSize chunkChecksum
  | .updateOffset newOffset => s.updateOffset newOffset
  | .markInProgress => s.markInProgress
  | .markComplete => s.markComplete
  | .markFailed => .ok s.markFailed
  | .markAborted => .ok s.markAborted

end UploadSession

section

variable {α β : Type} {c : Prop} [Decidable c] {e : Exc} {self : SessionFields}

theorem Method.run_raiseIf_bind {f : Unit → Method α} :
    (raiseIf c e >>= f).run self = if c then .error e self else (f ()).run self := by
  unfold raiseIf
  split <;> rfl

theorem raiseIf_bind {f : Unit → Except Exc α} :
    (raiseIf c e >>= f) = if c then .error e else f () := by
  unfold raiseIf
  split <;> rfl

end

/-- On a valid object the methods do what the functions do, and a rejected call changes nothing. -/
theorem Mutation.method_run (m : Mutation) (s : UploadSession) :
    m.method.run s.toSessionFields = match s.mutate m with
      | .ok s' => .ok () s'.toSessionFields
      | .error e => .error e s.toSessionFields := by
  cases m with
  | addChunk chunkIndex chunkSize chunkChecksum =>
      simp only [Mutation.method, UploadSession.mutate, Method.addChunk, UploadSession.addChunk,
        Method.run_raiseIf_bind, raiseIf_bind]
      split
      · rfl
      split
      · rfl
      split
      · rfl
      change (raiseIf _ _ >>= _ : Method Unit).run s.toSessionFields = _
      rw [Method.run_raiseIf_bind]
      split <;> rfl
  | updateOffset newOffset =>
      simp only [Mutation.method, UploadSession.mutate, Method.updateOffset,
        UploadSession.updateOffset, Method.run_raiseIf_bind]
      split
      · rfl
      change (raiseIf _ _ >>= _ : Method Unit).run s.toSessionFields = _
      rw [Method.run_raiseIf_bind]
      split
      · rfl
      change (raiseIf _ _ >>= _ : Method Unit).run s.toSessionFields = _
      rw [Method.run_raiseIf_bind]
      split <;> rfl
  | markInProgress =>
      simp only [UploadSession.mutate, UploadSession.markInProgress, raiseIf_bind]
      change (raiseIf _ _ >>= _ : Method Unit).run s.toSessionFields = _
      rw [Method.run_raiseIf_bind]
      split <;> rfl
  | markComplete =>
      simp only [UploadSession.mutate, UploadSession.markComplete, raiseIf_bind]
      change (raiseIf _ _ >>= _ : Method Unit).run s.toSessionFields = _
      rw [Method.run_raiseIf_bind]
      split
      · rfl
      change (raiseIf _ _ >>= _ : Method Unit).run s.toSessionFields = _
      rw [Method.run_raiseIf_bind]
      split <;> rfl
  | markFailed => rfl
  | markAborted => rfl

/-! ## The rules -/

/-- What the lifecycle demands of one call, from the object that it finds to the one that it
leaves. -/
structure FollowsRules (f : SessionFields) (m : Mutation) : Prop where
  offset_le : f.offset ≤ (m.apply f).offset
  offset_nonneg : 0 ≤ (m.apply f).offset
  offset_le_size : (m.apply f).offset ≤ (m.apply f).size
  indices : ((m.apply f).chunkManifest.map ChunkMeta.index).Nodup
  entries : ∀ c ∈ (m.apply f).chunkManifest, 0 ≤ c.index ∧ 0 < c.size
  rejected : m.Rejected f → m.apply f = f
  complete : (m.apply f).status = .complete → f.status ≠ .complete →
    (m.apply f).offset = (m.apply f).size
  final : f.status.Terminal → (m.apply f).status ≠ f.status →
    (m.apply f).status = .aborted

/-- The call does not fail a session that is complete or aborted. -/
def FailsOnlyOpen (self : SessionFields) (m : Mutation) : Prop :=
  m = .markFailed → self.status ≠ .complete ∧ self.status ≠ .aborted

/-- `P` holds of every call and the object that it finds. -/
def SessionFields.Along (P : SessionFields → Mutation → Prop) : SessionFields → List Mutation → Prop
  | _, [] => True
  | self, m :: calls => P self m ∧ (m.apply self).Along P calls

/-- As the constructor leaves it. -/
structure SessionFields.Fresh (f : SessionFields) : Prop where
  valid : f.postInit = .ok ()
  status : f.status = .pending
  offset : f.offset = 0
  chunkManifest : f.chunkManifest = []

namespace UploadSession

variable {s s' : UploadSession} {m : Mutation}

/-- What a call that is not rejected can do. -/
theorem mutate_cases (h : s.mutate m = .ok s') :
    (∃ chunkIndex chunkSize chunkChecksum,
      0 ≤ chunkIndex ∧ 0 < chunkSize ∧ (∀ c ∈ s.chunkManifest, c.index ≠ chunkIndex) ∧
        s'.toSessionFields = { s.toSessionFields with
          chunkManifest := s.chunkManifest ++ [⟨chunkIndex, chunkSize, chunkChecksum⟩] }) ∨
    (∃ newOffset, s.offset ≤ newOffset ∧
      s'.toSessionFields = { s.toSessionFields with offset := newOffset }) ∨
    (m = .markInProgress ∧ ¬ s.status.Terminal ∧ s' = s.withStatus .inProgress) ∨
    (m = .markComplete ∧ ¬ s.status.Terminal ∧ s.size ≤ s.offset ∧ s' = s.withStatus .complete) ∨
    (m = .markFailed ∧ s' = s.withStatus .failed) ∨
    (m = .markAborted ∧ s' = s.withStatus .aborted) := by
  cases m with
  | addChunk chunkIndex chunkSize chunkChecksum =>
      simp only [mutate, addChunk, except_bind_eq_ok, raiseIf_eq_ok, Unique.exists_iff, Int.not_lt,
        Int.not_le, not_exists, not_and] at h
      obtain ⟨hindex, hsize, -, hfree, hs'⟩ := h
      cases hs'
      exact .inl ⟨_, _, _, hindex, hsize, hfree, rfl⟩
  | updateOffset newOffset =>
      simp only [mutate, updateOffset] at h
      split at h
      · cases h
      split at h
      · cases h
      next hle =>
      split at h
      · cases h
      cases h
      exact .inr (.inl ⟨newOffset, Int.not_lt.mp hle, rfl⟩)
  | markInProgress =>
      simp only [mutate, markInProgress, except_bind_eq_ok, raiseIf_eq_ok, Unique.exists_iff] at h
      obtain ⟨hopen, hs'⟩ := h
      cases hs'
      exact .inr (.inr (.inl ⟨rfl, hopen, rfl⟩))
  | markComplete =>
      simp only [mutate, markComplete, except_bind_eq_ok, raiseIf_eq_ok, Unique.exists_iff,
        Int.not_lt] at h
      obtain ⟨hopen, hoffset, hs'⟩ := h
      cases hs'
      exact .inr (.inr (.inr (.inl ⟨rfl, hopen, hoffset, rfl⟩)))
  | markFailed =>
      cases h
      exact .inr (.inr (.inr (.inr (.inl ⟨rfl, rfl⟩))))
  | markAborted =>
      cases h
      exact .inr (.inr (.inr (.inr (.inr ⟨rfl, rfl⟩))))

/-- The entries of the manifest are those that `add_chunk` lets through. -/
structure Orderly (s : UploadSession) : Prop where
  indices : (s.chunkManifest.map ChunkMeta.index).Nodup
  entries : ∀ c ∈ s.chunkManifest, 0 ≤ c.index ∧ 0 < c.size

/-- The session after a call, rejected or not. -/
def next (s : UploadSession) (m : Mutation) : UploadSession :=
  match s.mutate m with
  | .ok s' => s'
  | .error _ => s

theorem apply_eq_next (s : UploadSession) (m : Mutation) :
    m.apply s.toSessionFields = (s.next m).toSessionFields := by
  rw [Mutation.apply, Mutation.method_run, next]
  cases s.mutate m <;> rfl

theorem Orderly.next (h : s.Orderly) (m : Mutation) : (s.next m).Orderly := by
  unfold UploadSession.next
  cases hm : s.mutate m with
  | error e => exact h
  | ok s' =>
      have hsame : s'.chunkManifest = s.chunkManifest → s'.Orderly := fun heq =>
        ⟨heq ▸ h.indices, heq ▸ h.entries⟩
      obtain ⟨chunkIndex, chunkSize, chunkChecksum, hindex, hsize, hfree, heq⟩ | ⟨_, _, heq⟩ |
        ⟨_, _, rfl⟩ | ⟨_, _, _, rfl⟩ | ⟨_, rfl⟩ | ⟨_, rfl⟩ := mutate_cases hm
      · have hmanifest := congrArg SessionFields.chunkManifest heq
        constructor
        · rw [hmanifest, List.map_append]
          refine List.nodup_append.mpr ⟨h.indices, List.nodup_singleton _, ?_⟩
          rintro i hi j hj rfl
          obtain ⟨c, hc, rfl⟩ := List.mem_map.mp hi
          exact hfree c hc (List.mem_singleton.mp hj)
        · rw [hmanifest]
          intro c hc
          rcases List.mem_append.mp hc with hc | hc
          · exact h.entries c hc
          · rw [List.mem_singleton.mp hc]
            exact ⟨hindex, hsize⟩
      · exact hsame (by rw [heq])
      all_goals exact hsame rfl

/-- Only a failing of a complete or aborted session breaks the rules. -/
theorem followsRules_iff (h : s.Orderly) :
    FollowsRules s.toSessionFields m ↔ FailsOnlyOpen s.toSessionFields m := by
  constructor
  -- a session that has ended otherwise must not become FAILED
  · rintro hrules rfl
    have hfinal := hrules.final
    rw [apply_eq_next] at hfinal
    constructor
    · intro hcomplete
      have := hfinal (.inl hcomplete) (by rw [hcomplete]; nofun)
      cases this
    · intro haborted
      have := hfinal (.inr (.inr haborted)) (by rw [haborted]; nofun)
      cases this
  · intro hopen
    have hnext := h.next m
    suffices hsuffices : s.offset ≤ (s.next m).offset ∧
        ((s.next m).status = .complete → s.status ≠ .complete →
          (s.next m).offset = (s.next m).size) ∧
        (s.status.Terminal → (s.next m).status ≠ s.status → (s.next m).status = .aborted) by
      obtain ⟨hoffset, hcomplete, hfinal⟩ := hsuffices
      rw [← apply_eq_next] at hoffset hcomplete hfinal
      refine ⟨hoffset, ?_, ?_, ?_, ?_, ?_, hcomplete, hfinal⟩
      · rw [apply_eq_next]
        exact (s.next m).offset_nonneg
      · rw [apply_eq_next]
        exact (s.next m).offset_le
      · rw [apply_eq_next]
        exact hnext.indices
      · rw [apply_eq_next]
        exact hnext.entries
      · rintro ⟨e, self', hrun⟩
        rw [Mutation.method_run] at hrun
        rw [Mutation.apply, Mutation.method_run]
        cases hm : s.mutate m with
        | ok s' => rw [hm] at hrun; cases hrun
        | error e => rfl
    unfold UploadSession.next
    cases hm : s.mutate m with
    | error e => exact ⟨Int.le_refl _, fun hc hn => absurd hc hn, fun _ hne => absurd rfl hne⟩
    | ok s' =>
        -- what the six mutators do to offset, size and status
        obtain ⟨_, _, _, _, _, _, heq⟩ | ⟨newOffset, hle, heq⟩ | ⟨_, hterminal, rfl⟩ |
          ⟨_, hterminal, hsize, rfl⟩ | ⟨rfl, rfl⟩ | ⟨_, rfl⟩ := mutate_cases hm
        · rw [heq]
          exact ⟨Int.le_refl _, fun hc hn => absurd hc hn, fun _ hne => absurd rfl hne⟩
        · rw [heq]
          exact ⟨hle, fun hc hn => absurd hc hn, fun _ hne => absurd rfl hne⟩
        · exact ⟨Int.le_refl _, nofun, fun ht => absurd ht hterminal⟩
        · exact ⟨Int.le_refl _, fun _ _ => Int.le_antisymm s.offset_le hsize,
            fun ht => absurd ht hterminal⟩
        -- `mark_failed` is the one that changes a final status
        · refine ⟨Int.le_refl _, nofun, fun ht hne => ?_⟩
          obtain ⟨hcomplete, haborted⟩ := hopen rfl
          rcases ht with ht | ht | ht
          · exact absurd ht hcomplete
          · exact absurd ht.symm hne
          · exact absurd ht haborted
        · exact ⟨Int.le_refl _, nofun, fun _ _ => rfl⟩

theorem along_iff (h : s.Orderly) (calls : List Mutation) :
    s.toSessionFields.Along FollowsRules calls ↔ s.toSessionFields.Along FailsOnlyOpen calls := by
  induction calls generalizing s with
  | nil => exact Iff.rfl
  | cons m calls ih =>
      rw [SessionFields.Along, SessionFields.Along, followsRules_iff h, apply_eq_next,
        ih (h.next m)]

end UploadSession

/-- Whatever is called on a fresh session, the rules are followed exactly if `mark_failed` is never
called while the session is complete or aborted. -/
theorem lifecycle_iff {f : SessionFields} (hfresh : f.Fresh) (calls : List Mutation) :
    f.Along FollowsRules calls ↔ f.Along FailsOnlyOpen calls := by
  have horderly : UploadSession.Orderly ⟨f, hfresh.valid⟩ := by
    constructor
    · rw [hfresh.chunkManifest]
      exact List.nodup_nil
    · rw [hfresh.chunkManifest]
      exact List.forall_mem_nil _
  exact UploadSession.along_iff horderly calls

theorem lifecycle_iff_sample :
    Sample.pendingSession.toSessionFields.Along FollowsRules
        [.updateOffset 1, .markComplete, .markAborted, .markFailed] ↔
      Sample.pendingSession.toSessionFields.Along FailsOnlyOpen
        [.updateOffset 1, .markComplete, .markAborted, .markFailed] :=
  lifecycle_iff ⟨Sample.pendingSession.valid, rfl, rfl, rfl⟩ _

/-- A session that is complete fails. -/
theorem complete_session_fails :
    ¬ (Sample.pendingSession.toSessionFields.Fresh →
      Sample.pendingSession.toSessionFields.Along FollowsRules
        [.updateOffset 1, .markComplete, .markFailed]) := by
  intro h
  obtain ⟨-, -, hrules, -⟩ := h ⟨Sample.pendingSession.valid, rfl, rfl, rfl⟩
  exact absurd (hrules.final (by decide +kernel) (by decide +kernel)) (by decide +kernel)

end RagFileUploader
