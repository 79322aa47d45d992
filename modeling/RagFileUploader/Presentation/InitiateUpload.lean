import RagFileUploader.Presentation.QueryUploadOffset

/-!
# The start of an upload

`initiate_upload`, the handler of `POST /v1/uploads`, behind the schema that its body is checked
against.
-/

namespace RagFileUploader.InitiateUpload

variable {m : Type → Type} [Monad m] [MonadExcept Exc m] (deps : Dependencies m)

/-! ## The body -/

/-- The schema `InitiateUploadRequest`, before its constraints are checked. -/
structure Body where
  filename : String
  size : ℤ
  mimeType : String
  sha256Checksum : String
  deriving DecidableEq

/-- A field that breaks a constraint: the type of the error, and the field by its alias. -/
structure FieldError where
  type : String
  field : String
  deriving DecidableEq

/-- `[error] if broken else []`. -/
def fieldError (broken : Prop) [Decidable broken] (type field : String) : List FieldError :=
  if broken then [⟨type, field⟩] else []

/-- What is wrong with the body, field by field. -/
def Body.errors (body : Body) : List FieldError :=
  fieldError (body.filename.toList.length < 1) "string_too_short" "filename" ++
    fieldError (body.filename.toList.length > 255) "string_too_long" "filename" ++
    fieldError (body.size ≤ 0) "greater_than" "size" ++
    fieldError (body.size > 1073741824) "less_than_equal" "size" ++
    fieldError (body.mimeType ≠ "application/pdf") "string_pattern_mismatch" "mimeType" ++
    fieldError (¬ IsHex64 body.sha256Checksum.toList) "string_pattern_mismatch" "sha256Checksum"

/-! ## Responses -/

/-- The schema `InitiateUploadResponse`, in a response with status 201. -/
structure Created where
  uploadId : UUID
  offset : ℤ
  expiresAt : DateTime
  deriving DecidableEq

/-- A value in the details of an error of this route. -/
inductive Detail where
  | value (value : DetailValue)
  | texts (values : List String)
  deriving DecidableEq

/-- An `HTTPException` with headers. -/
structure Failure where
  statusCode : ℕ
  error : String
  message : String
  details : List (String × Detail)
  headers : List (String × String) := []
  deriving DecidableEq

def rateLimitExceeded (message : String) (currentCount limit retryAfterSeconds : ℤ) : Failure where
  statusCode := 429
  error := "RATE_LIMIT_EXCEEDED"
  message := message
  details := [("current_uploads", .value (.number currentCount)),
    ("limit", .value (.number limit)),
    ("retry_after_seconds", .value (.number retryAfterSeconds))]
  headers := [("Retry-After", toString retryAfterSeconds)]

def fileSizeLimitExceeded (message : String) (fileSize maxSize : ℤ) : Failure where
  statusCode := 413
  error := "FILE_SIZE_LIMIT_EXCEEDED"
  message := message
  details := [("file_size", .value (.number fileSize)), ("max_size", .value (.number maxSize))]

def unsupportedMediaType (message providedMimeType : String) (allowedMimeTypes : List String) :
    Failure where
  statusCode := 415
  error := "UNSUPPORTED_MEDIA_TYPE"
  message := message
  details := [("provided_mime_type", .value (.text providedMimeType)),
    ("allowed_mime_types", .texts allowedMimeTypes)]

def infrastructureError : Failure where
  statusCode := 503
  error := "INFRASTRUCTURE_ERROR"
  message := "Storage system temporarily unavailable. Please retry."
  details := [("retry_guidance", .value (.text "Retry after a few seconds"))]

def validationError (message : String) : Failure where
  statusCode := 422
  error := "VALIDATION_ERROR"
  message := message
  details := []

def internalServerError : Failure where
  statusCode := 500
  error := "INTERNAL_SERVER_ERROR"
  message := "An unexpected error occurred. Please retry or contact support."
  details := []

/-- The `except` clauses around the use case. -/
def failed : Exc → m Failure
  | .rateLimitExceededError workspaceId currentCount limit retryAfterSeconds =>
      pure (rateLimitExceeded
        (Exc.rateLimitExceededError workspaceId currentCount limit retryAfterSeconds).str
        currentCount limit retryAfterSeconds)
  | .fileSizeLimitExceededError fileSize maxSize =>
      pure (fileSizeLimitExceeded (Exc.fileSizeLimitExceededError fileSize maxSize).str fileSize
        maxSize)
  | .unsupportedMediaTypeError provided allowed =>
      pure (unsupportedMediaType (Exc.unsupportedMediaTypeError provided allowed).str provided
        allowed)
  | e =>
      if e.isInfrastructureError then pure infrastructureError
      else if e.isValueError then pure (validationError e.str)
      else if e.isException then pure internalServerError
      else throw e

/-! ## The handler -/

/-- The schema, mapped to the request of the use case. -/
def Body.toRequest (body : Body) (workspaceId : UUID) : InitiateUploadRequest where
  workspaceId := workspaceId
  filename := body.filename
  size := body.size
  mimeType := body.mimeType
  sha256Checksum := body.sha256Checksum

/-- The response of the use case, mapped to the schema. -/
def created (response : InitiateUploadResponse) : Created where
  uploadId := response.sessionId
  offset := response.offset
  expiresAt := response.expiresAt

/-- The handler, for a caller of the workspace. -/
def execute (workspaceId : UUID) (body : Body) : m (Except Failure Created) :=
  tryCatch
    ((fun response => Except.ok (created response)) <$>
      InitiateUploadUseCase.execute deps (body.toRequest workspaceId))
    fun e => Except.error <$> failed e

end RagFileUploader.InitiateUpload
