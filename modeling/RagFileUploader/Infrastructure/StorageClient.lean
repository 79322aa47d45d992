import RagFileUploader.Infrastructure.RateLimiter
import RagFileUploader.Infrastructure.World

/-!
# The S3 storage client

`S3StorageClient.assemble_file` checks that the key is free, uploads the chunks as the parts of a
multipart upload, completes it, and deletes the object again if its checksum is not the expected
one.  Whether the handlers have an upload to abort depends on where the exception came from, so
the `try` block is cut at the point where the upload id is known.
-/

namespace RagFileUploader.S3StorageClient

open Effects

def validateChunkData (chunkData : List Bytes) : Except Exc Unit := do
  raiseIf (chunkData = []) (.valueError "chunk_data cannot be empty")
  raiseIf (∃ chunk ∈ chunkData, chunk.length = 0)
    (.valueError "chunk_data contains zero-length chunks")
  raiseIf (chunkData.length > 10000) (.valueError
    s!"chunk_data has {chunkData.length} chunks, exceeds S3 multipart limit of 10,000 parts")

def validateChecksumFormat (checksum : SHA256Hash) : Except Exc Unit :=
  raiseIf (¬ MatchesHex64 checksum.value) (.valueError
    s!"Invalid checksum format: expected 64-character lowercase hex, got '{checksum.value}'")

/-- `_check_file_exists`. -/
def checkFileExists (key : S3Key) (fileId : UUID) : Service Unit :=
  tryExcept
    (do
      send (.headObject key)
      throw (.integrityError s!"File already exists at {key}" none none fileId))
    Exc.isClientError fun e => if e.saysAbsent then pure () else throw e

/-- `_get_upload_id`. -/
def getUploadId (response : Option UploadId) (key : S3Key) : Except Exc UploadId :=
  match response with
  | some uploadId => .ok uploadId
  | none => .error (.infrastructureError
      s!"S3 create_multipart_upload response missing UploadId for {key}")

/-- `_upload_part`. -/
def uploadPart (key : S3Key) (uploadId : UploadId) (partNum : ℕ) (chunk : Bytes) :
    Service Part := do
  let some etag ← send (.uploadPart key uploadId partNum chunk)
    | throw (.infrastructureError
        s!"S3 upload_part response missing ETag for {key} part {partNum}")
  pure ⟨partNum, etag⟩

/-- `asyncio.gather`: every task runs, also when another one raises, and the first exception is
raised.  A part that is still under way then either gets through before the upload is aborted or
is refused, so nothing is lost by letting all of them finish first. -/
def gather {α : Type} : List (Service α) → Service (List α)
  | [] => pure []
  | task :: tasks => do
      match ← tryCatch (Except.ok <$> task) (fun e => pure (Except.error e)) with
      | .ok a => do
          let rest ← gather tasks
          pure (a :: rest)
      | .error e => do
          discard (tryCatch (Except.ok <$> gather tasks) (fun e => pure (Except.error e)))
          throw e

/-- `_abort_multipart_upload`. -/
def abortMultipartUpload (key : S3Key) : Option UploadId → Service Unit
  | none => pure ()
  | some uploadId =>
      tryExcept (send (.abortMultipartUpload key uploadId)) Exc.isException fun _ => pure ()

variable (settings : Settings)

/-- `_format_boto_error`. -/
def formatBotoError : Exc → String
  | .clientError code message _ =>
      if code = "NoSuchBucket" then
        s!"S3 bucket '{settings.s3BucketName}' does not exist. Please create it first."
      else if code = "InvalidAccessKeyId" ∨ code = "SignatureDoesNotMatch" then
        s!"Invalid S3 credentials: {code}"
      else s!"{code}: {message}"
  | e => e.str

/-- The `except` clauses of `assemble_file`. -/
def assembleFailed {α : Type} (key : S3Key) (uploadId : Option UploadId) (e : Exc) :
    Service α :=
  if e.isIntegrityError then throw e
  else if e.isClientError || e.isBotoCoreError then do
    abortMultipartUpload key uploadId
    throw (.infrastructureError
      s!"S3 file assembly failed for {key}: {formatBotoError settings e}")
  else if e.isException then do
    abortMultipartUpload key uploadId
    throw (.infrastructureError s!"Unexpected error during file assembly for {key}: {e.str}")
  else throw e

/-- From the existence check to the upload id. -/
def beginUpload (key : S3Key) (fileId : UUID) : Service UploadId := do
  checkFileExists key fileId
  let multipartResponse ← send (.createMultipartUpload key)
  MonadExcept.ofExcept (getUploadId multipartResponse key)

/-- `s3://{bucket}/{key}`. -/
def s3Path (key : S3Key) : String := s!"s3://{settings.s3BucketName}/{key}"

/-- The upload itself, the checksum comparison and the removal of a corrupt file. -/
def uploadParts (key : S3Key) (fileId : UUID) (uploadId : UploadId) (chunkData : List Bytes)
    (expectedChecksum : SHA256Hash) : Service (String × ℤ) := do
  let totalSize : ℤ := (chunkData.map List.length).sum
  let computedChecksum := sha256Hexdigest chunkData.flatten
  let parts ← gather ((chunkData.zipIdx 1).map fun (chunk, partNum) =>
    uploadPart key uploadId partNum chunk)
  send (.completeMultipartUpload key uploadId parts)
  if computedChecksum ≠ expectedChecksum.value then do
    tryExcept (send (.deleteObject key)) Exc.isException fun _ => pure ()
    throw (.integrityError s!"Assembled file checksum mismatch for {key}"
      (some expectedChecksum.value) (some computedChecksum) fileId)
  else pure (s3Path settings key, totalSize)

def assembleFile (workspaceId fileId : UUID) (chunkData : List Bytes)
    (expectedChecksum : SHA256Hash) : Service (String × ℤ) := do
  MonadExcept.ofExcept (validateChunkData chunkData)
  MonadExcept.ofExcept (validateChecksumFormat expectedChecksum)
  let key : S3Key := ⟨workspaceId, fileId⟩
  let uploadId ← tryCatch (beginUpload key fileId) (assembleFailed settings key none)
  tryCatch (uploadParts settings key fileId uploadId chunkData expectedChecksum)
    (assembleFailed settings key (some uploadId))

def port : IStorageClient Service where
  assembleFile := assembleFile settings

end RagFileUploader.S3StorageClient
