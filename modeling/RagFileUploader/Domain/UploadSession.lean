import RagFileUploader.Domain.Exceptions

/-!
# Upload sessions

`SessionFields` are the arguments of the entity's constructor and `postInit` its validation, in
source order.  An `UploadSession` carries the proof that its fields passed.  The checks never look
at status or manifest, so the methods that change these keep the proof; `updateOffset` re-proves
it from its own guards.
-/

namespace RagFileUploader

def maxFileSizeBytes : ℤ := 1073741824

def allowedMimeTypes : List String := ["application/pdf"]

/-- An entry of the chunk manifest. -/
structure ChunkMeta where
  index : ℤ
  size : ℤ
  checksum : String
  deriving DecidableEq, Repr

/-- What the constructor of `UploadSession` is given. -/
structure SessionFields where
  sessionId : UUID
  workspaceId : UUID
  filename : String
  size : ℤ
  mimeType : String
  sha256Checksum : SHA256Hash
  offset : ℤ
  status : SessionStatus
  createdAt : DateTime
  expiresAt : DateTime
  chunkManifest : List ChunkMeta
  deriving DecidableEq

/-- The filename checks, which the request makes as well. -/
def validateFilename (filename : String) : Except Exc Unit := do
  raiseIf (isBlank filename) (.valueError "filename cannot be empty")
  raiseIf (contains "/" filename ∨ contains "\\" filename)
    (.valueError "filename cannot contain path separators")
  raiseIf (contains "\x00" filename) (.valueError "filename cannot contain null bytes")
  raiseIf (filename.toList.length > 255) (.valueError "filename cannot exceed 255 characters")

/-- `__post_init__`.  The type checks of the source hold by typing. -/
def SessionFields.postInit (f : SessionFields) : Except Exc Unit := do
  validateFilename f.filename
  raiseIf (f.size ≤ 0) (.valueError "size must be > 0")
  raiseIf (f.size > maxFileSizeBytes) (.fileSizeLimitExceededError f.size maxFileSizeBytes)
  raiseIf (f.mimeType ∉ allowedMimeTypes) (.unsupportedMediaTypeError f.mimeType allowedMimeTypes)
  raiseIf (f.offset < 0 ∨ f.offset > f.size) (.valueError "offset must be >= 0 and <= size")
  raiseIf (f.createdAt.tzinfo = none) (.valueError "created_at must be timezone-aware")
  raiseIf (f.expiresAt.tzinfo = none) (.valueError "expires_at must be timezone-aware")
  raiseIf (f.expiresAt.instant ≤ f.createdAt.instant)
    (.valueError "expires_at must be after created_at")

/-- A validated upload session. -/
structure UploadSession extends SessionFields where
  valid : toSessionFields.postInit = .ok ()
  deriving DecidableEq

/-! ## Validation in `Except` -/

section

variable {α β : Type} {c : Prop} [Decidable c] {e e' : Exc}

@[simp] theorem raiseIf_eq_ok {u : Unit} : (raiseIf c e : Except Exc Unit) = .ok u ↔ ¬ c := by
  unfold raiseIf
  split <;> simp_all [throw, throwThe, MonadExceptOf.throw, pure, Except.pure]

@[simp] theorem raiseIf_eq_error :
    (raiseIf c e : Except Exc Unit) = .error e' ↔ c ∧ e = e' := by
  unfold raiseIf
  split <;> simp_all [throw, throwThe, MonadExceptOf.throw, pure, Except.pure]

@[simp] theorem except_bind_eq_ok {x : Except Exc α} {f : α → Except Exc β} {b : β} :
    (x >>= f) = .ok b ↔ ∃ a, x = .ok a ∧ f a = .ok b := by
  cases x <;> simp [bind, Except.bind]

/-- The computation raises nothing but exceptions of class `P`. -/
def Raises (P : Exc → Bool) (r : Except Exc α) : Prop := ∀ e, r = .error e → P e = true

variable {P : Exc → Bool}

theorem raises_ok (a : α) : Raises P (.ok a) := fun _ h => nomatch h

theorem raises_pure (a : α) : Raises P (pure a) := raises_ok a

theorem raises_error (h : P e = true) : Raises P (.error e : Except Exc α) := fun _ he => by
  cases he
  exact h

theorem raises_raiseIf (h : P e = true) : Raises P (raiseIf c e) :=
  fun _ he => (raiseIf_eq_error.mp he).2 ▸ h

theorem raises_bind {x : Except Exc α} {f : α → Except Exc β} (hx : Raises P x)
    (hf : ∀ a, Raises P (f a)) : Raises P (x >>= f) := by
  cases x with
  | ok a => exact hf a
  | error e =>
      intro e' h
      cases h
      exact hx e rfl

/-- Where the second part goes wrong, the first has succeeded. -/
theorem raises_bind_iff {x : Except Exc α} {f : α → Except Exc β} :
    Raises P (x >>= f) ↔ Raises P x ∧ ∀ a, x = .ok a → Raises P (f a) := by
  cases x with
  | ok a =>
      constructor
      · intro h
        refine ⟨raises_ok a, fun a' ha' => ?_⟩
        cases ha'
        exact h
      · exact fun h => h.2 a rfl
  | error e =>
      constructor
      · intro h
        exact ⟨raises_error (h e rfl), nofun⟩
      · exact fun h => raises_error (h.1 e rfl)

/-- An `except` clause that raises something else changes what is raised. -/
theorem raises_tryExcept_iff {x : Except Exc α} {catches : Exc → Bool} {f : Exc → Exc} :
    Raises P (tryExcept x catches fun e => throw (f e)) ↔
      Raises (fun e => if catches e then P (f e) else P e) x := by
  cases x with
  | ok a => exact iff_of_true (raises_ok a) (raises_ok a)
  | error e =>
      have hraised : tryExcept (.error e : Except Exc α) catches (fun e => throw (f e)) =
          .error (if catches e then f e else e) := by
        change (if catches e then _ else _ : Except Exc α) = _
        split <;> rfl
      have hif : P (if catches e then f e else e) = if catches e then P (f e) else P e :=
        apply_ite P _ _ _
      rw [hraised]
      constructor
      · exact fun h => raises_error (hif ▸ h _ rfl)
      · exact fun h => raises_error (hif.trans (h e rfl))

theorem raises_map_iff {x : Except Exc α} {f : α → β} : Raises P (f <$> x) ↔ Raises P x := by
  cases x with
  | ok a => exact iff_of_true (raises_ok _) (raises_ok _)
  | error e => exact ⟨fun h => raises_error (h e rfl), fun h => raises_error (h e rfl)⟩

theorem raises_map {x : Except Exc α} {f : α → β} (hx : Raises P x) : Raises P (f <$> x) := by
  cases x with
  | ok a => exact raises_ok _
  | error e => exact raises_error (hx e rfl)

theorem raises_mapM {f : α → Except Exc β} {l : List α} (h : ∀ a ∈ l, Raises P (f a)) :
    Raises P (l.mapM f) := by
  induction l with
  | nil => exact raises_pure []
  | cons a l ih =>
      obtain ⟨ha, hl⟩ := List.forall_mem_cons.mp h
      rw [List.mapM_cons]
      exact raises_bind ha fun _ => raises_bind (ih hl) fun _ => raises_pure _

/-- A constructor that makes checks raises what the checks raise. -/
theorem raises_checked_iff {φ : Type} {postInit : φ → Except Exc Unit} {f : φ}
    {mk : postInit f = .ok () → α} :
    Raises P (match h : postInit f with
      | .ok () => .ok (mk h)
      | .error e => .error e : Except Exc α) ↔ Raises P (postInit f) := by
  split
  · next h => exact iff_of_true (raises_ok _) (h ▸ raises_ok _)
  · next e h =>
      rw [h]
      exact ⟨fun he => raises_error (he e rfl), fun he => raises_error (he e rfl)⟩

theorem SHA256Hash.raises_new (hP : ∀ message, P (.valueError message) = true) (value : String) :
    Raises P (SHA256Hash.new value) := by
  unfold SHA256Hash.new
  split
  · exact raises_error (hP _)
  · split
    · exact raises_ok _
    · exact raises_error (hP _)

end

theorem SessionFields.postInit_eq_ok_iff (f : SessionFields) :
    f.postInit = .ok () ↔
      validateFilename f.filename = .ok () ∧ 0 < f.size ∧ f.size ≤ maxFileSizeBytes ∧
        f.mimeType ∈ allowedMimeTypes ∧ (0 ≤ f.offset ∧ f.offset ≤ f.size) ∧
        f.createdAt.tzinfo ≠ none ∧ f.expiresAt.tzinfo ≠ none ∧
        f.createdAt.instant < f.expiresAt.instant := by
  simp [SessionFields.postInit, Unique.exists_iff]

namespace UploadSession

/-- `UploadSession(...)`. -/
def new (f : SessionFields) : Except Exc UploadSession :=
  match h : f.postInit with
  | .ok () => .ok ⟨f, h⟩
  | .error e => .error e

theorem new_eq_ok_iff {f : SessionFields} {s : UploadSession} :
    new f = .ok s ↔ s.toSessionFields = f := by
  constructor
  · intro h
    unfold new at h
    split at h
    · cases h
      rfl
    · cases h
  · rintro rfl
    unfold new
    split
    · rfl
    · next e h => rw [s.valid] at h; cases h

theorem new_toSessionFields (s : UploadSession) : new s.toSessionFields = .ok s :=
  new_eq_ok_iff.mpr rfl

variable (s : UploadSession)

theorem size_pos : 0 < s.size := ((s.postInit_eq_ok_iff).mp s.valid).2.1

theorem size_le : s.size ≤ maxFileSizeBytes := ((s.postInit_eq_ok_iff).mp s.valid).2.2.1

theorem offset_nonneg : 0 ≤ s.offset := ((s.postInit_eq_ok_iff).mp s.valid).2.2.2.2.1.1

theorem offset_le : s.offset ≤ s.size := ((s.postInit_eq_ok_iff).mp s.valid).2.2.2.2.1.2

/-! ## Methods -/

/-- The session with another status; the body of every status transition. -/
def withStatus (status : SessionStatus) : UploadSession :=
  { s with status := status, valid := s.valid }

@[simp] theorem withStatus_toSessionFields (status : SessionStatus) :
    (s.withStatus status).toSessionFields = { s.toSessionFields with status := status } := rfl

def addChunk (chunkIndex chunkSize : ℤ) (chunkChecksum : String) : Except Exc UploadSession := do
  raiseIf (chunkIndex < 0) (.valueError "chunk_index must be >= 0")
  raiseIf (chunkSize ≤ 0) (.valueError "chunk_size must be > 0")
  raiseIf (isBlank chunkChecksum) (.valueError "chunk_checksum cannot be empty")
  raiseIf (∃ c ∈ s.chunkManifest, c.index = chunkIndex)
    (.valueError s!"chunk_index {chunkIndex} already exists in manifest")
  pure { s with
    chunkManifest := s.chunkManifest ++ [⟨chunkIndex, chunkSize, chunkChecksum⟩]
    valid := s.valid }

def updateOffset (newOffset : ℤ) : Except Exc UploadSession :=
  if newOffset < 0 then .error (.valueError "new_offset must be >= 0")
  else if h : newOffset < s.offset then
    .error (.valueError "cannot decrease offset (non-monotonic update)")
  else if h' : newOffset > s.size then .error (.valueError "new_offset must be <= size")
  else .ok { s with
    offset := newOffset
    valid := by
      rw [SessionFields.postInit_eq_ok_iff]
      have hs := s.postInit_eq_ok_iff.mp s.valid
      exact ⟨hs.1, hs.2.1, hs.2.2.1, hs.2.2.2.1,
        ⟨Int.le_trans s.offset_nonneg (Int.not_lt.mp h), Int.not_lt.mp h'⟩, hs.2.2.2.2.2⟩ }

def markInProgress : Except Exc UploadSession := do
  raiseIf s.status.Terminal (.valueError
    s!"Cannot transition from {s.status.value} to IN_PROGRESS (invalid state transition)")
  pure (s.withStatus .inProgress)

def markComplete : Except Exc UploadSession := do
  raiseIf s.status.Terminal (.valueError
    s!"Cannot transition from {s.status.value} to COMPLETE (invalid state transition)")
  raiseIf (s.offset < s.size) (.valueError "Cannot mark complete: offset < size")
  pure (s.withStatus .complete)

variable {s} in
theorem markComplete_eq (hstatus : s.status = .inProgress) (hoffset : s.offset = s.size) :
    s.markComplete = .ok (s.withStatus .complete) := by
  simp [markComplete, hstatus, hoffset, SessionStatus.Terminal, raiseIf, pure, Except.pure, bind,
    Except.bind]

def markFailed : UploadSession := s.withStatus .failed

def markAborted : UploadSession := s.withStatus .aborted

end UploadSession

end RagFileUploader
