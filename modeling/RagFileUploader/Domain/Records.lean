import RagFileUploader.Domain.UploadSession

/-!
# Events, metadata and data transfer objects

The records that travel between the use cases, their callers and their dependencies.  As for
upload sessions, a record whose constructor validates comes with its checks in source order, and
its type carries the proof that they passed.
-/

namespace RagFileUploader

/-! ## The event of a finished upload -/

structure EventFields where
  fileId : UUID
  workspaceId : UUID
  s3Path : String
  sha256Checksum : SHA256Hash
  sizeBytes : ℤ
  uploadedAt : DateTime
  timestamp : DateTime
  eventVersion : String := "1.0"
  eventType : String := "FILE_LOAD_COMPLETED"
  deriving DecidableEq

def maxSafeJsonInteger : ℤ := 9007199254740991

/-- `FileLoadCompletedEvent.__post_init__`. -/
def EventFields.postInit (f : EventFields) : Except Exc Unit := do
  raiseIf (f.eventVersion ≠ "1.0") (.valueError "event_version must be '1.0' for v1 events")
  raiseIf (f.eventType ≠ "FILE_LOAD_COMPLETED")
    (.valueError "event_type must be 'FILE_LOAD_COMPLETED'")
  raiseIf (f.fileId = .nil) (.valueError "file_id cannot be nil UUID")
  raiseIf (f.workspaceId = .nil) (.valueError "workspace_id cannot be nil UUID")
  raiseIf (f.timestamp.tzinfo = none) (.valueError "timestamp must be timezone-aware")
  raiseIf (f.uploadedAt.tzinfo = none) (.valueError "uploaded_at must be timezone-aware")
  raiseIf (f.sizeBytes ≤ 0) (.valueError "size_bytes must be positive")
  raiseIf (f.sizeBytes > maxSafeJsonInteger)
    (.valueError s!"size_bytes {f.sizeBytes} exceeds safe JSON integer range")
  raiseIf (¬ MatchesHex64 f.sha256Checksum.value) (.valueError
    s!"sha256_checksum must be 64-character lowercase hex string, got: {f.sha256Checksum.value}")
  raiseIf (¬ "s3://".toList <+: f.s3Path.toList) (.valueError "s3_path must start with 's3://'")
  raiseIf (¬ contains s!"/workspace_{f.workspaceId}/" f.s3Path) (.valueError
    s!"s3_path must contain workspace path segment: /workspace_{f.workspaceId}/")
  raiseIf (¬ contains f.fileId.str f.s3Path)
    (.valueError s!"s3_path must contain file_id: {f.fileId}")
  raiseIf (f.uploadedAt.instant > f.timestamp.instant) (.valueError
    "uploaded_at cannot be after timestamp (file cannot be uploaded in the future)")

theorem EventFields.postInit_eq_ok_iff (f : EventFields) :
    f.postInit = .ok () ↔
      f.eventVersion = "1.0" ∧ f.eventType = "FILE_LOAD_COMPLETED" ∧ f.fileId ≠ .nil ∧
        f.workspaceId ≠ .nil ∧ f.timestamp.tzinfo ≠ none ∧ f.uploadedAt.tzinfo ≠ none ∧
        0 < f.sizeBytes ∧ f.sizeBytes ≤ maxSafeJsonInteger ∧
        MatchesHex64 f.sha256Checksum.value ∧ "s3://".toList <+: f.s3Path.toList ∧
        contains s!"/workspace_{f.workspaceId}/" f.s3Path ∧ contains f.fileId.str f.s3Path ∧
        f.uploadedAt.instant ≤ f.timestamp.instant := by
  simp only [EventFields.postInit, except_bind_eq_ok, raiseIf_eq_ok, Unique.exists_iff, not_not,
    Int.not_le, Int.not_lt, gt_iff_lt, ne_eq]

structure FileLoadCompletedEvent extends EventFields where
  valid : toEventFields.postInit = .ok ()
  deriving DecidableEq

def FileLoadCompletedEvent.new (f : EventFields) : Except Exc FileLoadCompletedEvent :=
  match h : f.postInit with
  | .ok () => .ok ⟨f, h⟩
  | .error e => .error e

theorem FileLoadCompletedEvent.raises_new {P : Exc → Bool}
    (hP : ∀ message, P (.valueError message) = true) (f : EventFields) :
    Raises P (FileLoadCompletedEvent.new f) := by
  refine raises_checked_iff.mpr ?_
  unfold EventFields.postInit
  repeat refine raises_bind (raises_raiseIf (hP _)) fun _ => ?_
  exact raises_raiseIf (hP _)

theorem FileLoadCompletedEvent.new_eq_ok_iff {f : EventFields} {event : FileLoadCompletedEvent} :
    FileLoadCompletedEvent.new f = .ok event ↔ event.toEventFields = f := by
  constructor
  · intro h
    unfold FileLoadCompletedEvent.new at h
    split at h
    · cases h
      rfl
    · cases h
  · rintro rfl
    unfold FileLoadCompletedEvent.new
    split
    · rfl
    · next e h => rw [event.valid] at h; cases h

/-! ## Metadata of registered files -/

structure MetadataFields where
  fileId : UUID
  s3Path : String
  size : ℤ
  uploadedAt : DateTime
  deriving DecidableEq

/-- `FileMetadata.__post_init__`. -/
def MetadataFields.postInit (f : MetadataFields) : Except Exc Unit := do
  raiseIf (f.size < 0) (.valueError s!"size must be non-negative, got {f.size}")
  raiseIf (f.uploadedAt.tzinfo = none) (.valueError "uploaded_at must be timezone-aware")
  raiseIf (isBlank f.s3Path) (.valueError "s3_path cannot be empty")

theorem MetadataFields.postInit_eq_ok_iff (f : MetadataFields) :
    f.postInit = .ok () ↔
      0 ≤ f.size ∧ f.uploadedAt.tzinfo ≠ none ∧ isBlank f.s3Path = false := by
  simp only [MetadataFields.postInit, except_bind_eq_ok, raiseIf_eq_ok, Unique.exists_iff,
    Int.not_lt, Bool.not_eq_true, ne_eq]

structure FileMetadata extends MetadataFields where
  valid : toMetadataFields.postInit = .ok ()
  deriving DecidableEq

def FileMetadata.new (f : MetadataFields) : Except Exc FileMetadata :=
  match h : f.postInit with
  | .ok () => .ok ⟨f, h⟩
  | .error e => .error e

theorem FileMetadata.raises_new {P : Exc → Bool}
    (hP : ∀ message, P (.valueError message) = true) (f : MetadataFields) :
    Raises P (FileMetadata.new f) :=
  raises_checked_iff.mpr (raises_bind (raises_raiseIf (hP _)) fun _ =>
    raises_bind (raises_raiseIf (hP _)) fun _ => raises_raiseIf (hP _))

theorem FileMetadata.new_of_valid {f : MetadataFields} (h : f.postInit = .ok ()) :
    FileMetadata.new f = .ok ⟨f, h⟩ := by
  unfold FileMetadata.new
  split
  · rfl
  · next e he => rw [h] at he; cases he

/-! ## Requests and responses -/

/-- The body of an initiation.  Nothing is checked before the use case asks for it. -/
structure InitiateUploadRequest where
  workspaceId : UUID
  filename : String
  size : ℤ
  mimeType : String
  sha256Checksum : String
  deriving DecidableEq

namespace InitiateUploadRequest

variable (r : InitiateUploadRequest)

def validateFilename : Except Exc Unit := RagFileUploader.validateFilename r.filename

def validateChecksum : Except Exc Unit := do
  raiseIf (r.sha256Checksum.toList.length ≠ 64)
    (.valueError "sha256_checksum must be exactly 64 characters")
  raiseIf (¬ ∀ c ∈ r.sha256Checksum.toList, c ∈ Hashing.Sha256.hexDigits)
    (.valueError "sha256_checksum must be lowercase hexadecimal")

def validateSize : Except Exc Unit := do
  raiseIf (r.size ≤ 0) (.valueError s!"File size must be positive, got {r.size}")
  raiseIf (r.size > maxFileSizeBytes) (.fileSizeLimitExceededError r.size maxFileSizeBytes)

/-- The comparison ignores case, unlike that of the entity. -/
def validateMimeType : Except Exc Unit :=
  raiseIf (lower r.mimeType ∉ allowedMimeTypes.map lower)
    (.unsupportedMediaTypeError r.mimeType allowedMimeTypes)

end InitiateUploadRequest

structure InitiateUploadResponse where
  sessionId : UUID
  offset : ℤ
  expiresAt : DateTime
  deriving DecidableEq

def InitiateUploadResponse.new (sessionId : UUID) (offset : ℤ) (expiresAt : DateTime) :
    Except Exc InitiateUploadResponse := do
  raiseIf (offset < 0) (.valueError s!"offset must be >= 0, got {offset}")
  raiseIf (expiresAt.tzinfo = none) (.valueError "expires_at must be timezone-aware (UTC)")
  pure ⟨sessionId, offset, expiresAt⟩

/-- A chunk with its position and checksum, as the request's constructor lets it through. -/
structure ProcessChunkRequest where
  workspaceId : UUID
  sessionId : UUID
  chunkData : Bytes
  chunkOffset : ℤ
  chunkChecksum : String
  offset_nonneg : 0 ≤ chunkOffset
  data_ne_nil : chunkData ≠ []
  checksum_matches : MatchesHex64 chunkChecksum
  deriving DecidableEq

/-- `ProcessChunkRequest(...)`. -/
def ProcessChunkRequest.new (workspaceId sessionId : UUID) (chunkData : Bytes) (chunkOffset : ℤ)
    (chunkChecksum : String) : Except Exc ProcessChunkRequest :=
  if hoffset : chunkOffset < 0 then
    .error (.valueError s!"chunk_offset cannot be negative: {chunkOffset}")
  else if hdata : chunkData = [] then .error (.valueError "chunk_data cannot be empty")
  else if hchecksum : MatchesHex64 chunkChecksum then
    .ok ⟨workspaceId, sessionId, chunkData, chunkOffset, chunkChecksum, Int.not_lt.mp hoffset,
      hdata, hchecksum⟩
  else .error (.valueError ("chunk_checksum must be 64 lowercase hex characters, got: " ++
    String.ofList (chunkChecksum.toList.take 20) ++ "..."))

structure ProcessChunkResponse where
  newOffset : ℤ
  deriving DecidableEq

structure CompleteUploadRequest where
  workspaceId : UUID
  sessionId : UUID
  deriving DecidableEq

structure CompleteUploadResponse where
  fileId : UUID
  s3Path : String
  sizeBytes : ℤ
  deriving DecidableEq

def CompleteUploadResponse.new (fileId : UUID) (s3Path : String) (sizeBytes : ℤ) :
    Except Exc CompleteUploadResponse := do
  raiseIf (s3Path = "") (.valueError "s3_path cannot be empty")
  raiseIf (sizeBytes < 0) (.valueError s!"size_bytes must be non-negative, got {sizeBytes}")
  pure ⟨fileId, s3Path, sizeBytes⟩

theorem CompleteUploadResponse.new_of_valid {fileId : UUID} {s3Path : String} {sizeBytes : ℤ}
    (hpath : s3Path ≠ "") (hsize : 0 ≤ sizeBytes) :
    CompleteUploadResponse.new fileId s3Path sizeBytes = .ok ⟨fileId, s3Path, sizeBytes⟩ := by
  simp only [CompleteUploadResponse.new, raiseIf, if_neg hpath, if_neg (Int.not_lt.mpr hsize)]
  rfl

end RagFileUploader
