import RagFileUploader.Infrastructure.SessionStore

/-!
# The Redis deduplication store

`RedisDeduplicationStore`: one hash a workspace, from checksums to file metadata.
-/

namespace RagFileUploader.RedisDeduplicationStore

open Effects

/-- `_serialize_metadata`, up to JSON. -/
def serializeMetadata (metadata : FileMetadata) : Except Exc MetadataFields := do
  raiseIf (metadata.uploadedAt.tzinfo = none)
    (.valueError "metadata.uploaded_at must be timezone-aware")
  pure metadata.toMetadataFields

/-- `_deserialize_metadata`, up to JSON. -/
def deserializeMetadata (data : MetadataFields) : Except Exc FileMetadata :=
  tryCatch
    (do
      let metadata ← FileMetadata.new data
      raiseIf (metadata.size < 0)
        (.serializationError s!"Deserialized size is negative: {metadata.size}")
      pure metadata)
    fun e =>
      if e.isKeyError || e.isValueError || e.isTypeError then
        throw (.serializationError s!"Failed to deserialize file metadata: {e.str}")
      else throw e

def checkDuplicate (workspaceId : UUID) (sha256 : SHA256Hash) : Service (Option FileMetadata) :=
  tryExcept
    (do
      let key ← MonadExcept.ofExcept (dedupKey workspaceId)
      let found : Bool ← send (.hexistsDedup key sha256.value)
      if found then
        match ← send (.hgetDedup key sha256.value) with
        | none => pure none
        | some metadata => some <$> MonadExcept.ofExcept (deserializeMetadata metadata)
      else pure none)
    Exc.isRedisError fun e => throw (.infrastructureError
      s!"Deduplication check failed for workspace {workspaceId}: {e.str}")

def registerFile (workspaceId : UUID) (sha256 : SHA256Hash) (metadata : FileMetadata) :
    Service Unit :=
  tryExcept
    (do
      let key ← MonadExcept.ofExcept (dedupKey workspaceId)
      let data ← MonadExcept.ofExcept (serializeMetadata metadata)
      send (.hsetDedup key sha256.value data))
    Exc.isRedisError fun e => throw (.infrastructureError
      s!"Fingerprint registration failed for workspace {workspaceId}: {e.str}")

def port : IDeduplicationStore Service where
  checkDuplicate := checkDuplicate
  registerFile := registerFile

end RagFileUploader.RedisDeduplicationStore
