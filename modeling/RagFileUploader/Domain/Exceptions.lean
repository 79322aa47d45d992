import RagFileUploader.Domain.Values

/-!
# Exceptions

One type holds everything the service can raise: the exceptions of `domain/exceptions.py`, the
built-in ones it meets, and those of the Redis, S3 and NATS client libraries.  Membership in a
Python class, as `except` clauses test it, is a Boolean predicate.

Some constructors validate their arguments; raising such an exception with bad arguments raises
`ValueError` instead.  `offsetMismatch` and its siblings return what is raised in the end.
-/

namespace RagFileUploader

inductive Exc where
  | invalidTokenError (message : String)
  | uploadSessionNotFoundError (message : String)
  | infrastructureError (message : String)
  | serializationError (message : String)
  | checksumMismatchError (expectedChecksum computedChecksum : String) (chunkIndex : Option ℤ)
      (chunkSize : ℤ)
  | offsetMismatchError (expectedOffset receivedOffset : ℤ) (sessionId : UUID)
  | invalidSessionStateError (sessionId : UUID) (currentState operation : String)
  | rateLimitExceededError (workspaceId : String) (currentCount limit retryAfterSeconds : ℤ)
  | duplicateFileError (sha256Checksum : SHA256Hash) (existingFileId : UUID)
      (existingS3Path : String) (uploadedAt : DateTime)
  | fileSizeLimitExceededError (fileSize maxSize : ℤ)
  | unsupportedMediaTypeError (providedMimeType : String) (allowedMimeTypes : List String)
  | workspaceMismatchError (resourceId : UUID) (resourceType : String)
      (expectedWorkspaceId actualWorkspaceId : UUID)
  | integrityError (message : String) (expectedChecksum computedChecksum : Option String)
      (fileId : UUID)
  | valueError (message : String)
  | typeError (message : String)
  | keyError (key : String)
  | attributeError (message : String)
  | redisError (message : String)
  | clientError (code message operation : String)
  | botoCoreError (message : String)
  /-- `nats.js.errors.NotFoundError`. -/
  | notFoundError (message : String)
  | timeoutError
  /-- Any other subclass of `Exception`. -/
  | exception (message : String)
  /-- Cancellation of the task, a `BaseException` that is no `Exception`. -/
  | cancelledError
  deriving DecidableEq

namespace Exc

/-- `str(e)`. -/
def str : Exc → String
  | invalidTokenError message => message
  | uploadSessionNotFoundError message => message
  | infrastructureError message => message
  | serializationError message => message
  | checksumMismatchError expected computed index size =>
      s!"Chunk checksum verification failed: expected {expected}, got {computed}" ++
        (match index with
          | some i => s!" (chunk {i})"
          | none => "") ++
        (if size > 0 then s!" ({size} bytes)" else "")
  | offsetMismatchError expected received sessionId =>
      s!"Upload offset mismatch: expected {expected}, received {received} (session {sessionId})"
  | invalidSessionStateError sessionId currentState operation =>
      s!"Cannot {operation} for session {sessionId} in {currentState} state"
  | rateLimitExceededError workspaceId currentCount limit retryAfterSeconds =>
      s!"Workspace {workspaceId} has {currentCount} active uploads (limit: {limit}). " ++
        s!"Retry after {retryAfterSeconds} seconds."
  | duplicateFileError sha256Checksum existingFileId _ uploadedAt =>
      s!"File with SHA-256 {sha256Checksum.value} already exists in workspace " ++
        s!"(file_id: {existingFileId}, uploaded: {uploadedAt.isoformat})"
  | fileSizeLimitExceededError fileSize maxSize =>
      s!"File size {fileSize} bytes exceeds maximum allowed size of {maxSize} bytes"
  | unsupportedMediaTypeError provided allowed =>
      s!"MIME type '{provided}' is not supported. Allowed types: " ++
        String.intercalate ", " allowed
  | workspaceMismatchError resourceId resourceType _ _ =>
      s!"Resource {resourceType} {resourceId} belongs to different workspace than active workspace"
  | integrityError message _ _ _ => message
  | valueError message => message
  | typeError message => message
  | keyError key => s!"'{key}'"
  | attributeError message => message
  | redisError message => message
  | clientError code message operation =>
      s!"An error occurred ({code}) when calling the {operation} operation: {message}"
  | botoCoreError message => message
  | notFoundError message => message
  | timeoutError => ""
  | exception message => message
  | cancelledError => ""

/-! ## Classes -/

/-- `isinstance(e, Exception)`. -/
def isException : Exc → Bool
  | cancelledError => false
  | _ => true

/-- `isinstance(e, InfrastructureError)`; `SerializationError` is a subclass. -/
def isInfrastructureError : Exc → Bool
  | infrastructureError _ | serializationError _ => true
  | _ => false

def isSessionNotFoundError : Exc → Bool
  | uploadSessionNotFoundError _ => true
  | _ => false

def isWorkspaceMismatchError : Exc → Bool
  | workspaceMismatchError .. => true
  | _ => false

def isInvalidSessionStateError : Exc → Bool
  | invalidSessionStateError .. => true
  | _ => false

def isDuplicateFileError : Exc → Bool
  | duplicateFileError .. => true
  | _ => false

def isIntegrityError : Exc → Bool
  | integrityError .. => true
  | _ => false

def isRateLimitExceededError : Exc → Bool
  | rateLimitExceededError .. => true
  | _ => false

def isRedisError : Exc → Bool
  | redisError _ => true
  | _ => false

def isClientError : Exc → Bool
  | clientError .. => true
  | _ => false

def isBotoCoreError : Exc → Bool
  | botoCoreError _ => true
  | _ => false

def isValueError : Exc → Bool
  | valueError _ => true
  | _ => false

def isTypeError : Exc → Bool
  | typeError _ => true
  | _ => false

def isKeyError : Exc → Bool
  | keyError _ => true
  | _ => false

def isInvalidTokenError : Exc → Bool
  | invalidTokenError _ => true
  | _ => false

def isNotFoundError : Exc → Bool
  | notFoundError _ => true
  | _ => false

/-! ## Constructors that validate their arguments -/

def checksumMismatch (expectedChecksum computedChecksum : String) (chunkIndex : Option ℤ)
    (chunkSize : ℤ) : Exc :=
  if expectedChecksum = "" then .valueError "expected_checksum cannot be empty"
  else if computedChecksum = "" then .valueError "computed_checksum cannot be empty"
  else if ∃ i ∈ chunkIndex, i < 0 then .valueError "chunk_index cannot be negative"
  else if chunkSize < 0 then .valueError "chunk_size cannot be negative"
  else .checksumMismatchError expectedChecksum computedChecksum chunkIndex chunkSize

def offsetMismatch (expectedOffset receivedOffset : ℤ) (sessionId : UUID) : Exc :=
  if expectedOffset < 0 then .valueError "expected_offset cannot be negative"
  else if receivedOffset < 0 then .valueError "received_offset cannot be negative"
  else .offsetMismatchError expectedOffset receivedOffset sessionId

def rateLimitExceeded (workspaceId : String) (currentCount limit retryAfterSeconds : ℤ) : Exc :=
  if currentCount < 0 then .valueError "current_count cannot be negative"
  else if limit ≤ 0 then .valueError "limit must be positive"
  else if retryAfterSeconds ≤ 0 then .valueError "retry_after_seconds must be positive"
  else .rateLimitExceededError workspaceId currentCount limit retryAfterSeconds

def duplicateFile (sha256Checksum : SHA256Hash) (existingFileId : UUID) (existingS3Path : String)
    (uploadedAt : DateTime) : Exc :=
  if existingS3Path = "" then .valueError "existing_s3_path cannot be empty"
  else if uploadedAt.tzinfo = none then .valueError "uploaded_at must be timezone-aware"
  else .duplicateFileError sha256Checksum existingFileId existingS3Path uploadedAt

def workspaceMismatch (resourceId : UUID) (resourceType : String)
    (expectedWorkspaceId actualWorkspaceId : UUID) : Exc :=
  if resourceType = "" then .valueError "resource_type must not be empty"
  else .workspaceMismatchError resourceId resourceType expectedWorkspaceId actualWorkspaceId

end Exc

/-! ## Raising and catching -/

variable {m : Type → Type} [Monad m] [MonadExcept Exc m] {α : Type}

/-- `if c: raise e`. -/
def raiseIf (c : Prop) [Decidable c] (e : Exc) : m Unit := if c then throw e else pure ()

/-- `try: body` with one `except` clause for the exceptions in `catches`. -/
def tryExcept (body : m α) (catches : Exc → Bool) (handler : Exc → m α) : m α :=
  tryCatch body fun e => if catches e then handler e else throw e

/-- `SHA256Hash(value)`. -/
def SHA256Hash.new (value : String) : Except Exc SHA256Hash :=
  if value.toList.length ≠ 64 then
    .error (.valueError s!"SHA-256 hash must be 64 chars, got {value.toList.length}")
  else if h : IsHex64 value.toList then .ok ⟨value, h⟩
  else .error (.valueError "SHA-256 hash must be lowercase hex")

theorem SHA256Hash.new_value (h : SHA256Hash) : SHA256Hash.new h.value = .ok h := by
  simp [SHA256Hash.new, h.isHex, h.isHex.1]

theorem SHA256Hash.new_eq_ok {value : String} {h : SHA256Hash}
    (hnew : SHA256Hash.new value = .ok h) : h.value = value := by
  unfold SHA256Hash.new at hnew
  split at hnew
  · cases hnew
  · split at hnew
    · cases hnew
      rfl
    · cases hnew

end RagFileUploader
