import RagFileUploader.Domain.Identifiers
import RagFileUploader.Infrastructure.SessionText

/-!
# File metadata as stored

The metadata of a registered file as the bytes that Redis holds, which may spell any JSON value or
none.  A dataclass takes values of any types, so the constructor has to find them out.  The
functions of the standard library that are not modelled are parameters.
-/

namespace RagFileUploader.Raw

open Encoding

/-! ## The value object -/

/-- `value < 0`. -/
def isNegative (value : Json) : Except Exc Bool :=
  match value with
  | .int n => .ok (n < 0)
  | .bool _ => .ok false
  | .float .nan => .ok false
  | .float (.infinity negative) => .ok negative
  | .float (.finite q) => .ok (q < 0)
  | value => .error (.typeError
      s!"'<' not supported between instances of '{value.typeName}' and 'int'")

/-- `not value or not value.strip()`. -/
def isBlank (value : Json) : Except Exc Bool :=
  if value.truthy then
    match value with
    | .str text => .ok (Textual.isBlank text)
    | value => .error (noAttribute value "strip")
  else .ok true

structure MetadataFields where
  fileId : UUID
  s3Path : Json
  size : Json
  uploadedAt : DateTime

/-- `FileMetadata.__post_init__`.  Messages leave out a size that is negative, which may be a
float. -/
def MetadataFields.postInit (f : MetadataFields) : Except Exc Unit := do
  raiseIf (← isNegative f.size) (.valueError "size must be non-negative")
  raiseIf (f.size.int? = none) (.valueError s!"size must be integer, got {f.size.typeName}")
  raiseIf (f.uploadedAt.tzinfo = none) (.valueError "uploaded_at must be timezone-aware")
  raiseIf (← isBlank f.s3Path) (.valueError "s3_path cannot be empty")

structure FileMetadata extends MetadataFields where
  valid : toMetadataFields.postInit = .ok ()

def FileMetadata.new (f : MetadataFields) : Except Exc FileMetadata :=
  match h : f.postInit with
  | .ok () => .ok ⟨f, h⟩
  | .error e => .error e

/-! ## The format -/

/-- The functions of the standard library.  The errors of the readers are `ValueError`s. -/
structure StandardLibrary where
  /-- `json.dumps`. -/
  dumps : Json → Text
  /-- `json.loads`. -/
  loads : Text → Except String Json
  /-- `datetime.fromisoformat`. -/
  fromisoformat : Text → Except String DateTime

variable (lib : StandardLibrary)

/-- Reads, and raises a `ValueError` if that fails. -/
def parse {α : Type} (read : Text → Except String α) (text : Text) : Except Exc α :=
  (read text).mapError .valueError

/-- The dictionary that stands for the metadata. -/
def FileMetadata.toJson (metadata : FileMetadata) : Json :=
  .dict [(.ofString "file_id", .str (.ofString metadata.fileId.str)),
    (.ofString "s3_path", metadata.s3Path),
    (.ofString "size", metadata.size),
    (.ofString "uploaded_at", .str (replace (Text.ofString "+00:00") (Text.ofString "Z")
      (Text.ofString metadata.uploadedAt.isoformat)))]

/-- `_serialize_metadata`. -/
def serializeMetadata (metadata : FileMetadata) : Except Exc Text := do
  raiseIf metadata.s3Path.isNull (.valueError "metadata.s3_path cannot be None")
  raiseIf (metadata.uploadedAt.tzinfo = none)
    (.valueError "metadata.uploaded_at must be timezone-aware")
  pure (lib.dumps metadata.toJson)

/-- The text that a reply of Redis is. -/
def replyText : ByteArray ⊕ Text → Except Exc Text
  | .inl bytes =>
      match Text.decode bytes with
      | some text => .ok text
      | none => .error (.valueError "'utf-8' codec can't decode the bytes")
  | .inr text => .ok text

/-- `datetime.fromisoformat(value.replace("Z", "+00:00"))`. -/
def parseTimestamp (value : Json) : Except Exc DateTime :=
  match value with
  | .str text =>
      parse lib.fromisoformat (replace (Text.ofString "Z") (Text.ofString "+00:00") text)
  | value => .error (noAttribute value "replace")

/-- The metadata that a JSON value stands for. -/
def parseMetadata (data : Json) : Except Exc FileMetadata := do
  let fileId ← UUID.ofJson (← subscript data "file_id")
  let s3Path ← subscript data "s3_path"
  let size ← subscript data "size"
  let uploadedAt ← parseTimestamp lib (← subscript data "uploaded_at")
  let metadata ← FileMetadata.new { fileId, s3Path, size, uploadedAt }
  raiseIf (← isNegative metadata.size) (.serializationError "Deserialized size is negative")
  raiseIf (metadata.size.int? = none) (.serializationError
    s!"Deserialized size is not an integer: {metadata.size.typeName}")
  pure metadata

/-- `_deserialize_metadata`. -/
def deserializeMetadata (reply : ByteArray ⊕ Text) : Except Exc FileMetadata :=
  tryExcept
    (do
      let data ← parse lib.loads (← replyText reply)
      parseMetadata lib data)
    isDataError fun e =>
      throw (.serializationError s!"Failed to deserialize file metadata: {e.str}")

/-! ## The store -/

/-- How an awaited call ends: with a reply, with an error of the client, or in the timeout of
`wait_for`. -/
inductive Outcome (α : Type) where
  | value (reply : α)
  | redisError (message : String)
  | timeout

def Outcome.result {α : Type} : Outcome α → Except Exc α
  | value reply => .ok reply
  | redisError message => .error (.redisError message)
  | timeout => .error .timeoutError

/-- The hash of fingerprints, by key and field. -/
structure Fingerprints where
  hexists : UUID → String → Outcome Bool
  hget : UUID → String → Outcome (Option ByteArray)

/-- `check_duplicate`. -/
def checkDuplicate (redis : Fingerprints) (workspaceId : UUID) (sha256 : SHA256Hash) :
    Except Exc (Option FileMetadata) :=
  tryExcept
    (do
      let key ← dedupKey workspaceId
      let found ← (redis.hexists key sha256.value).result
      if found then
        match ← (redis.hget key sha256.value).result with
        | none => pure none
        | some bytes =>
            if bytes.isEmpty then pure none
            else some <$> deserializeMetadata lib (.inl bytes)
      else pure none)
    Exc.isRedisError fun e => throw (.infrastructureError
      s!"Deduplication check failed for workspace {workspaceId}: {e.str}")

end RagFileUploader.Raw
