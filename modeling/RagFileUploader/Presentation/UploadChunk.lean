import RagFileUploader.Presentation.Headers
import RagFileUploader.Presentation.QueryUploadOffset

/-!
# The upload of a chunk

`upload_chunk`, the handler of `PATCH /v1/uploads/{upload_id}`.  It checks the headers before it
reads the body, builds the request of the use case from both, and turns what the use case raises
into responses.  The request is built outside the `try` block.
-/

namespace RagFileUploader

variable {m : Type → Type} [Monad m] [MonadExcept Exc m] (deps : Dependencies m)

/-! ## Errors that the handlers share -/

def internalServerError : HTTPException where
  statusCode := 500
  error := "INTERNAL_SERVER_ERROR"
  message := "An unexpected error occurred. Please retry or contact support."
  details := []

/-- There is no session: it expired a while ago, or nothing is known of it. -/
def notFoundOrExpired (metadata? : Option ExpiryMetadata)
    (expired : ExpiryMetadata → ℤ → HTTPException) (notFound : HTTPException) :
    m HTTPException := do
  let some metadata := metadata? | pure notFound
  match DateTime.fromisoformat? metadata.expiresAt with
  | none => pure notFound
  | some expiredAt => do
      let now ← deps.runtime.now
      let hours ← MonadExcept.ofExcept (QueryUploadOffset.hoursAgo now expiredAt)
      pure (expired metadata hours)

theorem QueryUploadOffset.missing_eq (uploadId : UUID) (metadata? : Option ExpiryMetadata) :
    missing deps uploadId metadata? =
      notFoundOrExpired deps metadata? (sessionExpired uploadId) (sessionNotFound uploadId) := rfl

namespace UploadChunk

/-- `MAX_CHUNK_SIZE`. -/
def maxChunkSize : ℤ := 100 * 1024 * 1024

/-- The typed parameters of the route, the content length, and the body or what reading it
raises. -/
structure Request where
  uploadId : UUID
  uploadOffset : ℤ
  uploadLength : ℤ
  uploadChecksum : String
  contentType : String
  contentLength : Option String
  body : Except Exc Bytes

/-! ## Errors -/

def invalidUploadLength (uploadLength : ℤ) : HTTPException where
  statusCode := 422
  error := "INVALID_UPLOAD_LENGTH"
  message := "Upload-Length must be greater than 0"
  details := [("provided_upload_length", .number uploadLength)]

def unsupportedContentType (contentType : String) : HTTPException where
  statusCode := 415
  error := "UNSUPPORTED_CONTENT_TYPE"
  message := "Content-Type must be application/offset+octet-stream"
  details := [("provided_content_type", .text contentType),
    ("required_content_type", .text "application/offset+octet-stream")]

def invalidChecksumFormat (uploadChecksum : String) : HTTPException where
  statusCode := 422
  error := "INVALID_CHECKSUM_FORMAT"
  message := "Upload-Checksum header must be in format 'sha256 \x7bbase64|hex\x7d'"
  details := [("provided_checksum", .text uploadChecksum),
    ("required_format", .text "sha256 \x7bbase64_or_hex_encoded_hash\x7d")]

def requestBodyTooLarge (contentLength : ℤ) : HTTPException where
  statusCode := 413
  error := "REQUEST_BODY_TOO_LARGE"
  message := s!"Request body exceeds maximum chunk size of {maxChunkSize} bytes"
  details := [("content_length", .number contentLength), ("max_chunk_size", .number maxChunkSize)]

def readBodyFailed : HTTPException where
  statusCode := 500
  error := "READ_BODY_FAILED"
  message := "Failed to read request body"
  details := []

def sessionNotFound (uploadId : UUID) (message : String) : HTTPException where
  statusCode := 404
  error := "SESSION_NOT_FOUND"
  message := message
  details := [("session_id", .text uploadId.str),
    ("suggestion", .text "Start a new upload session via POST /v1/uploads")]

def offsetMismatch (message : String) (expectedOffset receivedOffset : ℤ) : HTTPException where
  statusCode := 409
  error := "OFFSET_MISMATCH"
  message := message
  details := [("expected_offset", .number expectedOffset),
    ("received_offset", .number receivedOffset),
    ("suggestion", .text "Query HEAD /v1/uploads/\x7bid\x7d to get current offset before retrying")]

def checksumMismatch (message expectedChecksum computedChecksum : String) (chunkIndex : Option ℤ)
    (chunkSize : ℤ) : HTTPException where
  statusCode := 460
  error := "CHECKSUM_MISMATCH"
  message := message
  details := [("expected_checksum", .text expectedChecksum),
    ("computed_checksum", .text computedChecksum),
    ("chunk_index", chunkIndex.elim .null .number), ("chunk_size", .number chunkSize),
    ("suggestion", .text "Retry uploading this chunk only (do not restart full upload)")]

def validationError (message : String) : HTTPException where
  statusCode := 422
  error := "VALIDATION_ERROR"
  message := message
  details := []

/-! ## The handler -/

/-- The checks before the body is read.  Returns the checksum of the chunk. -/
def validate (request : Request) : Except HTTPException String :=
  if request.uploadLength ≤ 0 then .error (invalidUploadLength request.uploadLength)
  else if request.contentType ≠ "application/offset+octet-stream" then
    .error (unsupportedContentType request.contentType)
  else
    match parseChecksum (strip request.uploadChecksum) with
    | .error _ => .error (invalidChecksumFormat (strip request.uploadChecksum))
    | .ok chunkChecksum =>
        -- a content length that is no number is left to the reading of the body
        match request.contentLength.bind parseInt? with
        | none => .ok chunkChecksum
        | some contentLength =>
            if contentLength > maxChunkSize then .error (requestBodyTooLarge contentLength)
            else .ok chunkChecksum

/-- The `except` clauses around the use case. -/
def failed (workspaceId uploadId : UUID) (chunkData : Bytes) : Exc → m HTTPException
  | .uploadSessionNotFoundError message => do
      let (_, metadata?) ← deps.sessionStore.getSessionWithExpiryInfo workspaceId uploadId
      notFoundOrExpired deps metadata? (QueryUploadOffset.sessionExpired uploadId)
        (sessionNotFound uploadId message)
  | .offsetMismatchError expected received sessionId =>
      pure (offsetMismatch (Exc.offsetMismatchError expected received sessionId).str expected
        received)
  | .checksumMismatchError expected computed index size =>
      pure (checksumMismatch (Exc.checksumMismatchError expected computed index size).str expected
        computed index chunkData.length)
  | e =>
      if e.isInfrastructureError then pure (QueryUploadOffset.storageUnavailable e.str)
      else if e.isValueError then pure (validationError e.str)
      else if e.isException then pure internalServerError
      else throw e

/-- `204 No Content` with the new offset. -/
def chunkAccepted (newOffset : ℤ) : HTTPResponse where
  statusCode := 204
  headers := [("Upload-Offset", toString newOffset)]

/-- The use case, with its exceptions translated. -/
def process (request : ProcessChunkRequest) : m (Except HTTPException HTTPResponse) :=
  tryCatch
    ((fun response => Except.ok (chunkAccepted response.newOffset)) <$>
      ProcessChunkUseCase.execute deps request)
    fun e => Except.error <$> failed deps request.workspaceId request.sessionId request.chunkData e

/-- The handler, for a caller of the workspace. -/
def execute (workspaceId : UUID) (request : Request) : m (Except HTTPException HTTPResponse) :=
  match validate request with
  | .error e => pure (.error e)
  | .ok chunkChecksum =>
      match request.body with
      | .error e => if e.isException then pure (.error readBodyFailed) else throw e
      | .ok chunkData => do
          let request ← MonadExcept.ofExcept (ProcessChunkRequest.new workspaceId request.uploadId
            chunkData request.uploadOffset chunkChecksum)
          process deps request

end UploadChunk

end RagFileUploader
