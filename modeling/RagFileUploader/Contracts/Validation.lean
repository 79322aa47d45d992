import RagFileUploader.Infrastructure.Service

/-!
# Validation of a request and of the entity

An initiation validates its request before it takes a slot, and constructs the entity after.  The
two make the same checks of the filename, the checksum and the size.  Of the MIME type the request
accepts every spelling, the entity only the one in lowercase.
-/

namespace RagFileUploader

/-! ## The checks, one by one -/

namespace InitiateUploadRequest

variable {r : InitiateUploadRequest}

theorem validateChecksum_eq_ok_iff :
    r.validateChecksum = .ok () ↔ IsHex64 r.sha256Checksum.toList := by
  simp only [validateChecksum, except_bind_eq_ok, raiseIf_eq_ok, Unique.exists_iff, not_not]
  exact Iff.rfl

theorem validateSize_eq_ok_iff :
    r.validateSize = .ok () ↔ 0 < r.size ∧ r.size ≤ maxFileSizeBytes := by
  simp only [validateSize, except_bind_eq_ok, raiseIf_eq_ok, Unique.exists_iff, Int.not_le,
    Int.not_lt, gt_iff_lt]

theorem validateMimeType_eq_ok_iff :
    r.validateMimeType = .ok () ↔ lower r.mimeType ∈ allowedMimeTypes.map lower := by
  simp only [validateMimeType, raiseIf_eq_ok, not_not]

end InitiateUploadRequest

/-- The value object accepts what the request accepts. -/
theorem SHA256Hash.new_isOk_iff {value : String} :
    (∃ hash, SHA256Hash.new value = .ok hash) ↔ IsHex64 value.toList := by
  constructor
  · rintro ⟨hash, hnew⟩
    rw [← SHA256Hash.new_eq_ok hnew]
    exact hash.isHex
  · intro hhex
    exact ⟨⟨value, hhex⟩, SHA256Hash.new_value ⟨value, hhex⟩⟩

/-! ## Both as a whole -/

namespace InitiateUploadUseCase

variable {request : InitiateUploadRequest}

theorem validate_eq_ok_iff :
    validate request = .ok () ↔
      request.validateFilename = .ok () ∧ request.validateChecksum = .ok () ∧
        request.validateSize = .ok () ∧ request.validateMimeType = .ok () := by
  simp only [validate, except_bind_eq_ok, Unique.exists_iff]

/-- A fresh entity passes if its filename, checksum and size do and its MIME type is allowed as it
stands. -/
theorem newSession_isOk_iff (sessionId : UUID) (now : ℤ) :
    (∃ session, newSession request sessionId (.utc now) ((DateTime.utc now).addHours 24) =
        .ok session) ↔
      request.validateFilename = .ok () ∧ request.validateChecksum = .ok () ∧
        request.validateSize = .ok () ∧ request.mimeType ∈ allowedMimeTypes := by
  have hlater : (DateTime.utc now).instant < ((DateTime.utc now).addHours 24).instant := by
    change now < now + 24 * 3600000000
    omega
  have hnew : ∀ f : SessionFields, (∃ session, UploadSession.new f = .ok session) ↔
      f.postInit = .ok () := fun f => by
    constructor
    · rintro ⟨session, hsession⟩
      rw [← UploadSession.new_eq_ok_iff.mp hsession]
      exact session.valid
    · exact fun hvalid => ⟨⟨f, hvalid⟩, UploadSession.new_eq_ok_iff.mpr rfl⟩
  rw [InitiateUploadRequest.validateChecksum_eq_ok_iff, ← SHA256Hash.new_isOk_iff,
    InitiateUploadRequest.validateSize_eq_ok_iff]
  simp only [newSession, except_bind_eq_ok]
  constructor
  · rintro ⟨session, hash, hhash, hsession⟩
    obtain ⟨hname, hpos, hmax, hmime, -⟩ :=
      (SessionFields.postInit_eq_ok_iff _).mp ((hnew _).mp ⟨session, hsession⟩)
    exact ⟨hname, ⟨hash, hhash⟩, ⟨hpos, hmax⟩, hmime⟩
  · rintro ⟨hname, ⟨hash, hhash⟩, ⟨hpos, hmax⟩, hmime⟩
    obtain ⟨session, hsession⟩ := (hnew _).mpr ((SessionFields.postInit_eq_ok_iff
      { sessionId, workspaceId := request.workspaceId, filename := request.filename
        size := request.size, mimeType := request.mimeType, sha256Checksum := hash, offset := 0
        status := .pending, createdAt := .utc now, expiresAt := (DateTime.utc now).addHours 24
        chunkManifest := [] }).mpr
      ⟨hname, hpos, hmax, hmime, ⟨le_rfl, hpos.le⟩, by rintro ⟨⟩, by rintro ⟨⟩, hlater⟩)
    exact ⟨session, hash, hhash, hsession⟩

/-- Whatever the entity accepts has been validated. -/
theorem allowed_of_mem {mimeType : String} (h : mimeType ∈ allowedMimeTypes) :
    lower mimeType ∈ allowedMimeTypes.map lower :=
  List.mem_map_of_mem h

/-- Validation agrees with the construction of the entity exactly if the MIME type is not another
spelling of an allowed one, in a request that is valid otherwise. -/
theorem validation_matches_entity_iff (request : InitiateUploadRequest) (sessionId : UUID)
    (now : ℤ) :
    (validate request = .ok () ↔
      ∃ session, newSession request sessionId (.utc now) ((DateTime.utc now).addHours 24) =
        .ok session) ↔
      (request.validateFilename = .ok () → request.validateChecksum = .ok () →
        request.validateSize = .ok () → lower request.mimeType ∈ allowedMimeTypes.map lower →
          request.mimeType ∈ allowedMimeTypes) := by
  rw [validate_eq_ok_iff, newSession_isOk_iff, InitiateUploadRequest.validateMimeType_eq_ok_iff]
  constructor
  · intro hagree hname hchecksum hsize hlower
    exact (hagree.mp ⟨hname, hchecksum, hsize, hlower⟩).2.2.2
  · intro hspelling
    constructor
    · rintro ⟨hname, hchecksum, hsize, hlower⟩
      exact ⟨hname, hchecksum, hsize, hspelling hname hchecksum hsize hlower⟩
    · rintro ⟨hname, hchecksum, hsize, hmime⟩
      exact ⟨hname, hchecksum, hsize, allowed_of_mem hmime⟩

/-- A request for `Application/PDF` is validated, and refused by the entity. -/
theorem capitalised_mime_type_refused :
    ¬ (validate { Sample.upload with mimeType := "Application/PDF" } = .ok () ↔
      ∃ session, newSession { Sample.upload with mimeType := "Application/PDF" } Sample.session
        (.utc 0) ((DateTime.utc 0).addHours 24) = .ok session) := by
  rw [validate_eq_ok_iff, newSession_isOk_iff]
  decide +kernel

end InitiateUploadUseCase

end RagFileUploader
