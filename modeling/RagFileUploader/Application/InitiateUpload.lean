import RagFileUploader.Application.Ports

/-!
# Initiating an upload
-/

namespace RagFileUploader.InitiateUploadUseCase

variable {m : Type → Type} [Monad m] [MonadExcept Exc m] (deps : Dependencies m)

/-- Step 1: validation of the request. -/
def validate (request : InitiateUploadRequest) : Except Exc Unit := do
  request.validateFilename
  request.validateChecksum
  request.validateSize
  request.validateMimeType

/-- Step 5: the entity, in its initial state. -/
def newSession (request : InitiateUploadRequest) (sessionId : UUID)
    (createdAt expiresAt : DateTime) : Except Exc UploadSession := do
  let sha256Checksum ← SHA256Hash.new request.sha256Checksum
  UploadSession.new
    { sessionId
      workspaceId := request.workspaceId
      filename := request.filename
      size := request.size
      mimeType := request.mimeType
      sha256Checksum
      offset := 0
      status := .pending
      createdAt
      expiresAt
      chunkManifest := [] }

/-- Steps 3 to 7: create and persist the session. -/
def createSession (request : InitiateUploadRequest) : m InitiateUploadResponse := do
  let sessionId ← deps.runtime.uuid4
  let createdAt ← deps.runtime.now
  let expiresAt := createdAt.addHours 24
  let session ← MonadExcept.ofExcept (newSession request sessionId createdAt expiresAt)
  deps.sessionStore.createSession session
  MonadExcept.ofExcept (InitiateUploadResponse.new sessionId 0 expiresAt)

def execute (request : InitiateUploadRequest) : m InitiateUploadResponse := do
  MonadExcept.ofExcept (validate request)
  deps.rateLimiter.checkAndIncrement request.workspaceId
  tryExcept (createSession deps request) Exc.isException fun e => do
    -- give the slot back; the original exception wins over a failing decrement
    tryExcept (deps.rateLimiter.decrement request.workspaceId) Exc.isException fun _ => pure ()
    throw e

end RagFileUploader.InitiateUploadUseCase
