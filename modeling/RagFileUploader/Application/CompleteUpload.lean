import RagFileUploader.Application.Ports

/-!
# Completing an upload

The steps of `CompleteUploadUseCase.execute`, grouped by what can still be undone: `assemble`
puts the file together and looks for duplicates, `publish` hands out the event, and `finish`
does everything after it.  `settle` is the outer `except` block.
-/

namespace RagFileUploader.CompleteUploadUseCase

variable {m : Type → Type} [Monad m] [MonadExcept Exc m] (deps : Dependencies m)

/-- How Python prints a set of integers, up to the order, which it leaves open. -/
def setRepr : List ℤ → String
  | [] => "set()"
  | l => "\x7b" ++ String.intercalate ", " (l.map toString) ++ "\x7d"

/-- `_validate_chunk_manifest`. -/
def validateChunkManifest (session : UploadSession) : Except Exc Unit := do
  let manifest := session.chunkManifest
  raiseIf (manifest = [])
    (.invalidSessionStateError session.sessionId "chunk_manifest is empty" "validate_completeness")
  let indices := (manifest.map ChunkMeta.index).dedup
  let expectedIndices := (List.range manifest.length).map Int.ofNat
  -- the two sets are equal iff neither difference has an element
  let missing := expectedIndices.filter (· ∉ indices)
  let extra := indices.filter (· ∉ expectedIndices)
  raiseIf (missing ≠ [] ∨ extra ≠ [])
    (.invalidSessionStateError session.sessionId
      s!"chunk_manifest incomplete: missing={setRepr missing}, extra={setRepr extra}"
      "validate_completeness")
  let totalSize := (manifest.map ChunkMeta.size).sum
  raiseIf (totalSize ≠ session.size)
    (.invalidSessionStateError session.sessionId
      s!"chunk_manifest size mismatch: {totalSize} != {session.size}" "validate_completeness")

/-- Steps 1 and 2: the session must be complete but not yet completed. -/
def validateSession (request : CompleteUploadRequest) (session : UploadSession) :
    Except Exc Unit := do
  raiseIf (session.workspaceId ≠ request.workspaceId)
    (.workspaceMismatch request.sessionId "upload_session" request.workspaceId session.workspaceId)
  raiseIf (session.status ≠ .inProgress)
    (.invalidSessionStateError request.sessionId session.status.value "complete_upload")
  validateChunkManifest session
  raiseIf (session.offset ≠ session.size)
    (.invalidSessionStateError request.sessionId
      s!"offset={session.offset}, size={session.size}" "complete_upload")

/-- A session that passes validation is IN_PROGRESS and has all its bytes. -/
theorem validateSession_eq_ok
    {request : CompleteUploadRequest} {session : UploadSession}
    (h : validateSession request session = .ok ()) :
    session.status = .inProgress ∧ session.offset = session.size ∧
      session.chunkManifest ≠ [] := by
  simp only [validateSession, validateChunkManifest, except_bind_eq_ok, raiseIf_eq_ok,
    not_not] at h
  obtain ⟨-, -, -, hstatus, -, ⟨-, hne, -⟩, hoffset⟩ := h
  exact ⟨hstatus, hoffset, hne⟩

/-- One chunk of `_retrieve_chunks`. -/
def retrieveChunk (workspaceId sessionId : UUID) (chunkMeta : ChunkMeta) : m Bytes :=
  tryExcept
    (do
      let some chunkData ← deps.redis.get ⟨workspaceId, sessionId, chunkMeta.index⟩
        | throw (.invalidSessionStateError sessionId
            s!"chunk {chunkMeta.index} not found in Redis" "retrieve_chunks")
      pure chunkData)
    Exc.isException fun e =>
      if e.isInvalidSessionStateError then throw e
      else throw (.infrastructureError
        s!"Failed to retrieve chunk {chunkMeta.index} from Redis: {e.str}")

/-- The manifest in the order of the indices; Python's sort is stable, as this one. -/
def sortManifest (manifest : List ChunkMeta) : List ChunkMeta :=
  manifest.insertionSort fun a b => a.index ≤ b.index

/-- `_retrieve_chunks`. -/
def retrieveChunks (workspaceId sessionId : UUID) (manifest : List ChunkMeta) : m (List Bytes) :=
  (sortManifest manifest).mapM (retrieveChunk deps workspaceId sessionId)

/-- `_cleanup_chunks`. -/
def cleanupChunks (workspaceId sessionId : UUID) (manifest : List ChunkMeta) : m Unit :=
  manifest.forM fun chunkMeta =>
    tryExcept (deps.redis.delete ⟨workspaceId, sessionId, chunkMeta.index⟩) Exc.isException
      fun _ => pure ()

/-- Steps 3 to 5: assemble the file and reject it if the workspace has it already. -/
def assemble (request : CompleteUploadRequest) (session : UploadSession) : m (String × ℤ) := do
  let chunks ← retrieveChunks deps request.workspaceId request.sessionId session.chunkManifest
  let (s3Path, finalSize) ← deps.storageClient.assembleFile request.workspaceId
    request.sessionId chunks session.sha256Checksum
  match ← deps.dedupStore.checkDuplicate request.workspaceId session.sha256Checksum with
  | some duplicate => do
      deps.sessionStore.updateSession session.markFailed
      throw (.duplicateFile session.sha256Checksum duplicate.fileId duplicate.s3Path
        duplicate.uploadedAt)
  | none => pure (s3Path, finalSize)

/-- Step 7: build the event and publish it. -/
def publish (request : CompleteUploadRequest) (session : UploadSession) (s3Path : String)
    (finalSize : ℤ) : m Unit := do
  let uploadedAt ← deps.runtime.now
  let timestamp ← deps.runtime.now
  let event ← MonadExcept.ofExcept (FileLoadCompletedEvent.new
    { fileId := request.sessionId
      workspaceId := request.workspaceId
      s3Path
      sha256Checksum := session.sha256Checksum
      sizeBytes := finalSize
      uploadedAt
      timestamp })
  tryExcept (deps.eventPublisher.publish event) Exc.isInfrastructureError fun e => do
    deps.sessionStore.updateSession session.markFailed
    throw e

/-- Step 10: register the fingerprint. -/
def register (request : CompleteUploadRequest) (session : UploadSession) (s3Path : String)
    (finalSize : ℤ) : m Unit := do
  let uploadedAt ← deps.runtime.now
  let metadata ← MonadExcept.ofExcept
    (FileMetadata.new { fileId := request.sessionId, s3Path, size := finalSize, uploadedAt })
  deps.dedupStore.registerFile request.workspaceId session.sha256Checksum metadata

/-- Steps 8 to 12: the event is out. -/
def finish (request : CompleteUploadRequest) (session : UploadSession) (s3Path : String)
    (finalSize : ℤ) : m CompleteUploadResponse := do
  let session ← MonadExcept.ofExcept session.markComplete
  deps.sessionStore.updateSession session
  tryExcept (deps.rateLimiter.decrement request.workspaceId) Exc.isInfrastructureError
    fun _ => pure ()
  tryExcept (register deps request session s3Path finalSize) Exc.isException fun _ => pure ()
  tryExcept (cleanupChunks deps request.workspaceId request.sessionId session.chunkManifest)
    Exc.isException fun _ => pure ()
  MonadExcept.ofExcept (CompleteUploadResponse.new request.sessionId s3Path finalSize)

/-- The body of the `try` block, from the point where the session is there. -/
def body (request : CompleteUploadRequest) (session : UploadSession) :
    m CompleteUploadResponse := do
  MonadExcept.ofExcept (validateSession request session)
  let (s3Path, finalSize) ← assemble deps request session
  publish deps request session s3Path finalSize
  finish deps request session s3Path finalSize

/-- The `except` clauses around the body.  Four domain exceptions pass; any other `Exception`
marks the session FAILED, best effort, before it goes on. -/
def settle (session : UploadSession) (e : Exc) : m CompleteUploadResponse :=
  if e.isSessionNotFoundError || e.isWorkspaceMismatchError || e.isInvalidSessionStateError then
    throw e
  else if e.isDuplicateFileError then throw e
  else if e.isException then do
    tryExcept (deps.sessionStore.updateSession session.markFailed) Exc.isException
      fun _ => pure ()
    throw e
  else throw e

/-- The exceptions that the handlers let go on as they are. -/
def passes (e : Exc) : Bool :=
  e.isSessionNotFoundError || e.isWorkspaceMismatchError || e.isInvalidSessionStateError ||
    e.isDuplicateFileError

/-- The exceptions at which the handlers mark the session FAILED. -/
def marks (e : Exc) : Bool := e.isException && !passes e

theorem settle_eq (session : UploadSession) (e : Exc) :
    settle deps session e = if marks e then do
      tryExcept (deps.sessionStore.updateSession session.markFailed) Exc.isException
        fun _ => pure ()
      throw e
    else throw e := by
  cases e <;> rfl

/-- When `get_session` raises, the handlers find no `session` to mark and the exception goes on
as it is; a missing session raises one of the exceptions that pass. -/
def execute (request : CompleteUploadRequest) : m CompleteUploadResponse := do
  let some session ← deps.sessionStore.getSession request.workspaceId request.sessionId
    | throw (.uploadSessionNotFoundError
        s!"Upload session {request.sessionId} not found or expired")
  tryCatch (body deps request session) (settle deps session)

end RagFileUploader.CompleteUploadUseCase
