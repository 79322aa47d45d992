import RagFileUploader.Infrastructure.MetadataText

/-!
# Session hashes as stored

`get_session` on a hash that may have any fields and any bytes in them.  The chunk manifest may list
any JSON values; the checks of the other fields are those of `SessionText.lean`.
-/

namespace RagFileUploader.Raw

open Encoding

/-! ## The entity -/

structure SessionFields where
  sessionId : UUID
  workspaceId : UUID
  filename : Text
  size : ℤ
  mimeType : Text
  sha256Checksum : SHA256Hash
  offset : ℤ
  status : SessionStatus
  createdAt : DateTime
  expiresAt : DateTime
  chunkManifest : List Json

/-- The fields without the manifest. -/
def SessionFields.bare (f : SessionFields) : Textual.SessionFields where
  sessionId := f.sessionId
  workspaceId := f.workspaceId
  filename := f.filename
  size := f.size
  mimeType := f.mimeType
  sha256Checksum := f.sha256Checksum
  offset := f.offset
  status := f.status
  createdAt := f.createdAt
  expiresAt := f.expiresAt
  chunkManifest := []

/-- The checks of one entry of the manifest. -/
def checkChunk (i : ℕ) (chunk : Json) : Except Exc Unit :=
  match chunk with
  | .dict items =>
      raiseIf (Json.get? items "index" = none ∨ Json.get? items "size" = none ∨
          Json.get? items "checksum" = none) (.valueError
        s!"chunk_manifest[{i}] must contain 'index', 'size', and 'checksum' keys")
  | _ => .error (.typeError s!"chunk_manifest[{i}] must be a dict")

/-- The loop over the entries, the first of which is number `i`. -/
def checkChunks (i : ℕ) : List Json → Except Exc Unit
  | [] => .ok ()
  | chunk :: chunks => do
      checkChunk i chunk
      checkChunks (i + 1) chunks

/-- `__post_init__`. -/
def SessionFields.postInit (f : SessionFields) : Except Exc Unit := do
  f.bare.postInit
  checkChunks 0 f.chunkManifest

structure UploadSession extends SessionFields where
  valid : toSessionFields.postInit = .ok ()

def UploadSession.new (f : SessionFields) : Except Exc UploadSession :=
  match h : f.postInit with
  | .ok () => .ok ⟨f, h⟩
  | .error e => .error e

/-! ## The store -/

variable (lib : StandardLibrary)

/-- `int(text)`. -/
def parseInt (text : Text) : Except Exc ℤ :=
  match int? 10 text with
  | some n => .ok n
  | none => .error (.valueError
      s!"invalid literal for int() with base 10: '{text.display}'")

/-- `json.loads` of the manifest, which has to be a list. -/
def parseManifest (text : Text) : Except Exc (List Json) := do
  match ← parse lib.loads text with
  | .list chunks => pure chunks
  | value => throw (.serializationError
      s!"chunk_manifest must be a list, got {value.typeName}")

/-- What `_deserialize_session` gives to the constructor. -/
def parseFields (data : Textual.Hash) : Except Exc SessionFields := do
  let chunkManifest ← parseManifest lib (← data.get "chunk_manifest")
  let sessionId ← UUID.parse (← data.get "session_id")
  let workspaceId ← UUID.parse (← data.get "workspace_id")
  let filename ← data.get "filename"
  let size ← parseInt (← data.get "size")
  let mimeType ← data.get "mime_type"
  let sha256Checksum ← Textual.parseChecksum (← data.get "sha256_checksum")
  let offset ← parseInt (← data.get "offset")
  let status ← Textual.parseStatus (← data.get "status")
  let createdAt ← parse lib.fromisoformat (← data.get "created_at")
  let expiresAt ← parse lib.fromisoformat (← data.get "expires_at")
  pure { sessionId, workspaceId, filename, size, mimeType, sha256Checksum, offset, status, createdAt
         expiresAt, chunkManifest }

/-- `_deserialize_session`. -/
def deserializeSession (data : Textual.Hash) : Except Exc UploadSession := do
  UploadSession.new (← parseFields lib data)

/-- A hash as the client receives it.  Its keys differ. -/
abbrev HashBytes := List (ByteArray × ByteArray)

/-- The hash with its bytes decoded. -/
def decodeHash (rawData : HashBytes) : Except Exc Textual.Hash :=
  match Textual.decodeHash rawData with
  | some data => .ok data
  | none => .error (.valueError "'utf-8' codec can't decode the bytes")

/-- `get_session`.  `HGETALL` is answered or fails with an error of the client. -/
def getSession (hgetall : SessionKey → Except String HashBytes) (workspaceId sessionId : UUID) :
    Except Exc (Option UploadSession) := do
  let key ← sessionKey workspaceId sessionId
  tryCatch
    (do
      let rawData ← (hgetall key).mapError .redisError
      if rawData.isEmpty then pure none
      else some <$> (decodeHash rawData >>= deserializeSession lib))
    fun e => throw
      (RedisSessionStore.readError "Failed to retrieve session: " "Invalid session data: " e)

end RagFileUploader.Raw
