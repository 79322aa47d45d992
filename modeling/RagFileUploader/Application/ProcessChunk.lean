import RagFileUploader.Application.Ports

/-!
# Processing a chunk

`execute` reads the session, validates the chunk against what it read, stores the bytes, and
writes the whole session back.  The pure parts between the commands are definitions of their own:
`validate` before the bytes are stored and `recordChunk` after.
-/

namespace RagFileUploader

/-- `ChunkVerifier.verify_chunk`. -/
def verifyChunk (data : Bytes) (expectedChecksum : String) (chunkIndex : Option ℤ) :
    Except Exc Unit := do
  raiseIf (∃ i ∈ chunkIndex, i < 0) (.valueError "chunk_index cannot be negative")
  let expectedHash ← SHA256Hash.new expectedChecksum
  let computedHash := SHA256Hash.fromBytes data
  raiseIf (computedHash ≠ expectedHash)
    (.checksumMismatch expectedHash.value computedHash.value chunkIndex data.length)

namespace ProcessChunkUseCase

variable {m : Type → Type} [Monad m] [MonadExcept Exc m] (deps : Dependencies m)

def maxChunkSize : ℤ := 10485760

def chunkTtlSeconds : ℕ := 86400

/-- Steps 3 to 6: the checks on the session that was read.  Returns the chunk's index. -/
def validate (session : UploadSession) (request : ProcessChunkRequest) : Except Exc ℤ := do
  raiseIf session.status.Terminal
    (.invalidSessionStateError session.sessionId session.status.value "process_chunk")
  raiseIf (request.chunkOffset ≠ session.offset)
    (.offsetMismatch session.offset request.chunkOffset session.sessionId)
  let chunkSize : ℤ := request.chunkData.length
  raiseIf (chunkSize = 0) (.valueError "Chunk data cannot be empty")
  raiseIf (chunkSize > maxChunkSize)
    (.valueError s!"Chunk size {chunkSize} exceeds maximum 10 MB")
  let chunkIndex : ℤ := session.chunkManifest.length
  verifyChunk request.chunkData request.chunkChecksum (some chunkIndex)
  pure chunkIndex

/-- Steps 8 to 10: manifest, offset and status move together. -/
def recordChunk (session : UploadSession) (request : ProcessChunkRequest)
    (chunkIndex newOffset : ℤ) : Except Exc UploadSession := do
  let session ← session.addChunk chunkIndex request.chunkData.length request.chunkChecksum
  let session ← session.updateOffset newOffset
  if session.status = .pending then session.markInProgress else pure session

def execute (request : ProcessChunkRequest) : m ProcessChunkResponse := do
  let some session ← deps.sessionStore.getSession request.workspaceId request.sessionId
    | throw (.uploadSessionNotFoundError
        s!"Upload session {request.sessionId} not found or expired")
  let chunkIndex ← MonadExcept.ofExcept (validate session request)
  tryExcept
    (deps.redis.set ⟨request.workspaceId, request.sessionId, chunkIndex⟩ request.chunkData
      chunkTtlSeconds)
    Exc.isException fun e =>
      throw (.infrastructureError s!"Failed to store chunk {chunkIndex} in Redis: {e.str}")
  let newOffset := session.offset + request.chunkData.length
  let session ← MonadExcept.ofExcept (recordChunk session request chunkIndex newOffset)
  deps.sessionStore.updateSession session
  pure ⟨newOffset⟩

end ProcessChunkUseCase

end RagFileUploader
