import RagFileUploader.Infrastructure.Service

/-!
# The offset query

`query_upload_offset`, the handler of `HEAD /v1/uploads/{upload_id}`: it looks the session up,
together with the metadata that outlives it, and answers with the offset from which the client
can resume.
-/

namespace RagFileUploader

/-! ## Responses -/

/-- A value in the details of an error. -/
inductive DetailValue where
  | text (value : String)
  | number (value : ℤ)
  | null
  deriving DecidableEq

/-- `HTTPException`, with the structure that all errors of the service have. -/
structure HTTPException where
  statusCode : ℕ
  error : String
  message : String
  details : List (String × DetailValue)
  deriving DecidableEq

/-- A response without a body. -/
structure HTTPResponse where
  statusCode : ℕ
  headers : List (String × String)
  deriving DecidableEq

/-- `type(e).__name__`.  Of a class outside the service only the kind is known. -/
def Exc.typeName : Exc → String
  | .invalidTokenError _ => "InvalidTokenError"
  | .uploadSessionNotFoundError _ => "UploadSessionNotFoundError"
  | .infrastructureError _ => "InfrastructureError"
  | .serializationError _ => "SerializationError"
  | .checksumMismatchError .. => "ChecksumMismatchError"
  | .offsetMismatchError .. => "OffsetMismatchError"
  | .invalidSessionStateError .. => "InvalidSessionStateError"
  | .rateLimitExceededError .. => "RateLimitExceededError"
  | .duplicateFileError .. => "DuplicateFileError"
  | .fileSizeLimitExceededError .. => "FileSizeLimitExceededError"
  | .unsupportedMediaTypeError .. => "UnsupportedMediaTypeError"
  | .workspaceMismatchError .. => "WorkspaceMismatchError"
  | .integrityError .. => "IntegrityError"
  | .valueError _ => "ValueError"
  | .typeError _ => "TypeError"
  | .keyError _ => "KeyError"
  | .attributeError _ => "AttributeError"
  | .redisError _ => "RedisError"
  | .clientError .. => "ClientError"
  | .botoCoreError _ => "BotoCoreError"
  | .notFoundError _ => "NotFoundError"
  | .timeoutError => "TimeoutError"
  | .exception _ => "Exception"
  | .cancelledError => "CancelledError"

namespace QueryUploadOffset

variable {m : Type → Type} [Monad m] [MonadExcept Exc m] (deps : Dependencies m)

/-! ## Errors -/

def storageUnavailable (message : String) : HTTPException where
  statusCode := 503
  error := "INFRASTRUCTURE_ERROR"
  message := message
  details := [("retry_guidance", .text "Retry after a few seconds")]

def unexpectedError (e : Exc) : HTTPException where
  statusCode := 500
  error := "INTERNAL_ERROR"
  message := "An unexpected error occurred"
  details := [("error_type", .text e.typeName)]

/-- The `except` clauses around the lookup. -/
def lookupError (e : Exc) : m HTTPException :=
  if e = .timeoutError then
    pure (storageUnavailable "Storage system response timeout. Please retry.")
  else if e.isInfrastructureError then pure (storageUnavailable e.str)
  else if e.isException then pure (unexpectedError e)
  else throw e

def sessionNotFound (uploadId : UUID) : HTTPException where
  statusCode := 404
  error := "SESSION_NOT_FOUND"
  message := s!"Upload session {uploadId} not found"
  details := [("session_id", .text uploadId.str),
    ("suggestion", .text "Start a new upload session via POST /v1/uploads")]

def sessionExpired (uploadId : UUID) (metadata : ExpiryMetadata) (hoursAgo : ℤ) :
    HTTPException where
  statusCode := 404
  error := "SESSION_EXPIRED"
  message := s!"Upload session expired {hoursAgo} hours ago"
  details := [("session_id", .text uploadId.str), ("expired_at", .text metadata.expiresAt),
    ("expired_hours_ago", .number hoursAgo),
    ("suggestion", .text "Session expired. Start a new upload via POST /v1/uploads")]

def sessionTerminated (uploadId : UUID) (status : SessionStatus) : HTTPException where
  statusCode := 410
  error := "SESSION_TERMINATED"
  message := s!"Upload session {uploadId} is {status.value} and cannot be resumed"
  details := [("session_id", .text uploadId.str), ("status", .text status.value),
    ("suggestion", .text "Start a new upload session via POST /v1/uploads")]

def dataCorruption (uploadId : UUID) : HTTPException where
  statusCode := 500
  error := "DATA_CORRUPTION"
  message := "Invalid session state detected"
  details := [("session_id", .text uploadId.str), ("suggestion", .text "Contact support")]

/-! ## The handler -/

/-- `200 OK` with the offset and the length of an upload. -/
def offsetResponse (offset size : ℤ) : HTTPResponse where
  statusCode := 200
  headers := [("Upload-Offset", toString offset), ("Upload-Length", toString size),
    ("Cache-Control", "no-store, no-cache, must-revalidate")]

/-- The whole hours between two datetimes, if any.  Both are aware, or `-` raises `TypeError`. -/
def hoursAgo (now expiredAt : DateTime) : Except Exc ℤ := do
  raiseIf (expiredAt.tzinfo = none)
    (.typeError "can't subtract offset-naive and offset-aware datetimes")
  pure (max 0 ((now.instant - expiredAt.instant) / 3600000000))

/-- There is no session: it expired a while ago, or nothing is known of it. -/
def missing (uploadId : UUID) (metadata? : Option ExpiryMetadata) : m HTTPException := do
  let some metadata := metadata? | pure (sessionNotFound uploadId)
  match DateTime.fromisoformat? metadata.expiresAt with
  | none => pure (sessionNotFound uploadId)
  | some expiredAt => do
      let now ← deps.runtime.now
      let hours ← MonadExcept.ofExcept (hoursAgo now expiredAt)
      pure (sessionExpired uploadId metadata hours)

/-- There is a session: whether it can be resumed, and where. -/
def answer (uploadId : UUID) (session : UploadSession) : Except HTTPException HTTPResponse :=
  if session.status = .complete ∨ session.status = .aborted ∨ session.status = .failed then
    .error (sessionTerminated uploadId session.status)
  else if session.offset < 0 ∨ session.offset > session.size then
    .error (dataCorruption uploadId)
  else .ok (offsetResponse session.offset session.size)

/-- What the lookup returned, or the error that it is turned into. -/
def lookup (workspaceId uploadId : UUID) :
    m (Except HTTPException (Option UploadSession × Option ExpiryMetadata)) :=
  tryCatch
    (Except.ok <$> deps.sessionStore.getSessionWithExpiryInfo workspaceId uploadId)
    fun e => Except.error <$> lookupError e

/-- The handler, for a caller of the workspace. -/
def execute (workspaceId uploadId : UUID) : m (Except HTTPException HTTPResponse) := do
  match ← lookup deps workspaceId uploadId with
  | .error e => pure (.error e)
  | .ok (some session, _) => pure (answer uploadId session)
  | .ok (none, metadata?) => Except.error <$> missing deps uploadId metadata?

end QueryUploadOffset

end RagFileUploader
