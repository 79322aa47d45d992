import RagFileUploader.Presentation.UploadChunk

/-!
# The abort of an upload

`abort_upload`, the handler of `DELETE /v1/uploads/{upload_id}`.
-/

namespace RagFileUploader.AbortUpload

variable {m : Type → Type} [Monad m] [MonadExcept Exc m] (deps : Dependencies m)

def sessionExpired (uploadId : UUID) (metadata : ExpiryMetadata) (hoursAgo : ℤ) :
    HTTPException where
  statusCode := 404
  error := "SESSION_EXPIRED"
  message := s!"Upload session expired {hoursAgo} hours ago and was automatically cleaned up"
  details := [("session_id", .text uploadId.str), ("expired_at", .text metadata.expiresAt),
    ("expired_hours_ago", .number hoursAgo),
    ("suggestion", .text "Session expired. Start a new upload via POST /v1/uploads")]

def sessionNotFound (uploadId : UUID) : HTTPException where
  statusCode := 404
  error := "SESSION_NOT_FOUND"
  message := s!"Upload session {uploadId} not found"
  details := [("session_id", .text uploadId.str), ("suggestion", .text "Session does not exist")]

def workspaceMismatch (workspaceId uploadId : UUID) : HTTPException where
  statusCode := 403
  error := "WORKSPACE_MISMATCH"
  message := "Upload session belongs to a different workspace"
  details := [("session_id", .text uploadId.str), ("your_workspace_id", .text workspaceId.str)]

/-- The `except` clauses around the use case. -/
def failed (workspaceId uploadId : UUID) (e : Exc) : m HTTPException :=
  if e.isSessionNotFoundError then do
    let (_, metadata?) ← deps.sessionStore.getSessionWithExpiryInfo workspaceId uploadId
    notFoundOrExpired deps metadata? (sessionExpired uploadId) (sessionNotFound uploadId)
  else if e.isWorkspaceMismatchError then pure (workspaceMismatch workspaceId uploadId)
  else if e.isInfrastructureError then
    pure (QueryUploadOffset.storageUnavailable
      "Storage system temporarily unavailable. Please retry.")
  else if e.isException then pure internalServerError
  else throw e

/-- The handler, for a caller of the workspace. -/
def execute (workspaceId uploadId : UUID) : m (Except HTTPException HTTPResponse) :=
  tryCatch
    ((fun _ => Except.ok ⟨204, []⟩) <$> AbortUploadUseCase.execute deps workspaceId uploadId)
    fun e => Except.error <$> failed deps workspaceId uploadId e

end RagFileUploader.AbortUpload
