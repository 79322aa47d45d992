import RagFileUploader.Contracts.Validation

/-!
# Five validators of a checksum

The request and the value object count the characters of a checksum and look at each of them.  The
chunk's request, the storage client and the event match a pattern that ends in `$`, and `$` also
matches before a final newline.  That newline is all that they disagree on.
-/

namespace RagFileUploader

/-- The check of `_validate_checksum_format` on the text of a checksum. -/
def S3StorageClient.matchChecksum (checksumStr : String) : Except Exc Unit :=
  raiseIf (¬ MatchesHex64 checksumStr) (.valueError
    s!"Invalid checksum format: expected 64-character lowercase hex, got '{checksumStr}'")

theorem S3StorageClient.validateChecksumFormat_eq (checksum : SHA256Hash) :
    validateChecksumFormat checksum = matchChecksum checksum.value := rfl

/-- The check of `FileLoadCompletedEvent` on the text of a checksum. -/
def EventFields.matchChecksum (checksumStr : String) : Except Exc Unit :=
  raiseIf (¬ MatchesHex64 checksumStr) (.valueError
    s!"sha256_checksum must be 64-character lowercase hex string, got: {checksumStr}")

theorem EventFields.matchChecksum_of_postInit {f : EventFields} (h : f.postInit = .ok ()) :
    matchChecksum f.sha256Checksum.value = .ok () := by
  obtain ⟨-, -, -, -, -, -, -, -, hmatches, -⟩ := f.postInit_eq_ok_iff.mp h
  exact raiseIf_eq_ok.mpr (not_not.mpr hmatches)

inductive ChecksumValidator where
  | initiateUploadRequest
  | sha256Hash
  | processChunkRequest
  | storageClient
  | fileLoadCompletedEvent
  deriving DecidableEq

/-- The validator lets the text through, in requests that are otherwise these. -/
def ChecksumValidator.Accepts (request : InitiateUploadRequest) (chunk : ProcessChunkRequest)
    (value : String) : ChecksumValidator → Prop
  | initiateUploadRequest => { request with sha256Checksum := value }.validateChecksum = .ok ()
  | sha256Hash => ∃ hash, SHA256Hash.new value = .ok hash
  | processChunkRequest => ∃ r, ProcessChunkRequest.new chunk.workspaceId chunk.sessionId
      chunk.chunkData chunk.chunkOffset value = .ok r
  | storageClient => S3StorageClient.matchChecksum value = .ok ()
  | fileLoadCompletedEvent => EventFields.matchChecksum value = .ok ()

/-- All accept the text or all reject it, and they accept checksums only. -/
structure ValidatorsAgree (request : InitiateUploadRequest) (chunk : ProcessChunkRequest)
    (value : String) : Prop where
  same : ∀ v v' : ChecksumValidator,
    v.Accepts request chunk value ↔ v'.Accepts request chunk value
  exact : ∀ v : ChecksumValidator, v.Accepts request chunk value ↔ IsHex64 value.toList

/-- A checksum and a newline. -/
def IsHex64Line (value : String) : Prop :=
  IsHex64 (value.toList.take 64) ∧ value.toList.drop 64 = ['\n']

theorem IsHex64Line.not_isHex64 {value : String} (h : IsHex64Line value) :
    ¬ IsHex64 value.toList := by
  intro hhex
  have hlength : (value.toList.drop 64).length = 0 := by
    rw [List.length_drop, hhex.1]
  rw [h.2] at hlength
  cases hlength

theorem ProcessChunkRequest.new_isOk_iff (chunk : ProcessChunkRequest) (value : String) :
    (∃ r, ProcessChunkRequest.new chunk.workspaceId chunk.sessionId chunk.chunkData
      chunk.chunkOffset value = .ok r) ↔ MatchesHex64 value := by
  unfold ProcessChunkRequest.new
  rw [dif_neg (Int.not_lt.mpr chunk.offset_nonneg), dif_neg chunk.data_ne_nil]
  constructor
  · rintro ⟨r, hr⟩
    by_contra hno
    rw [dif_neg hno] at hr
    cases hr
  · intro hmatches
    rw [dif_pos hmatches]
    exact ⟨_, rfl⟩

/-- Those that count accept checksums, those that match also accept a checksum and a newline. -/
theorem ChecksumValidator.accepts_iff (request : InitiateUploadRequest)
    (chunk : ProcessChunkRequest) (value : String) (v : ChecksumValidator) :
    v.Accepts request chunk value ↔
      IsHex64 value.toList ∨
        (v ≠ initiateUploadRequest ∧ v ≠ sha256Hash ∧ IsHex64Line value) := by
  cases v with
  | initiateUploadRequest =>
      rw [Accepts, InitiateUploadRequest.validateChecksum_eq_ok_iff]
      simp
  | sha256Hash =>
      rw [Accepts, SHA256Hash.new_isOk_iff]
      simp
  | processChunkRequest =>
      rw [Accepts, ProcessChunkRequest.new_isOk_iff]
      simp [MatchesHex64, IsHex64Line]
  | storageClient =>
      rw [Accepts, S3StorageClient.matchChecksum, raiseIf_eq_ok, not_not]
      simp [MatchesHex64, IsHex64Line]
  | fileLoadCompletedEvent =>
      rw [Accepts, EventFields.matchChecksum, raiseIf_eq_ok, not_not]
      simp [MatchesHex64, IsHex64Line]

/-- The validators accept the same, and checksums only, exactly where the text is not a checksum
with a newline after it. -/
theorem validators_agree_iff (request : InitiateUploadRequest) (chunk : ProcessChunkRequest)
    (value : String) : ValidatorsAgree request chunk value ↔ ¬ IsHex64Line value := by
  constructor
  · intro h hline
    have haccepts := (ChecksumValidator.accepts_iff request chunk value
      .processChunkRequest).mpr (.inr ⟨nofun, nofun, hline⟩)
    exact hline.not_isHex64 ((h.exact _).mp haccepts)
  · intro hline
    have hexact : ∀ v : ChecksumValidator, v.Accepts request chunk value ↔ IsHex64 value.toList :=
      fun v => by
        rw [v.accepts_iff request chunk value]
        exact or_iff_left fun h => hline h.2.2
    exact ⟨fun v v' => (hexact v).trans (hexact v').symm, hexact⟩

/-- The letter `a` sixty-four times, and a newline. -/
theorem newline_accepted :
    ¬ ∀ (request : InitiateUploadRequest) (chunk : ProcessChunkRequest) (value : String),
      ValidatorsAgree request chunk value := by
  intro h
  have hexact := (h Sample.upload Sample.chunk
    (String.ofList (List.replicate 64 'a' ++ ['\n']))).exact .storageClient
  have haccepts : ChecksumValidator.storageClient.Accepts Sample.upload Sample.chunk
      (String.ofList (List.replicate 64 'a' ++ ['\n'])) :=
    raiseIf_eq_ok.mpr (not_not.mpr (by decide +kernel))
  exact absurd (hexact.mp haccepts) (by decide +kernel)

end RagFileUploader
