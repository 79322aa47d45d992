import RagFileUploader.Encoding.Text
import RagFileUploader.Infrastructure.SessionStore

/-!
# The session hash as text

The entity and its hash with Python's strings, which may hold lone surrogates, and with every hash
field as the text that Redis stores.  The functions of the standard library that write and read
these texts are parameters.

The other modules work with the typed hash of `Commands.lean`, whose fields hold the values that
the texts stand for; `RoundTrip.lean` shows that this is the same.
-/

namespace RagFileUploader.Textual

open Encoding

/-! ## The entity -/

/-- An entry of the chunk manifest. -/
structure ChunkMeta where
  index : ℤ
  size : ℤ
  checksum : Text
  deriving DecidableEq

structure SessionFields where
  sessionId : UUID
  workspaceId : UUID
  filename : Text
  size : ℤ
  mimeType : Text
  sha256Checksum : SHA256Hash
  offset : ℤ
  status : SessionStatus
  createdAt : DateTime
  expiresAt : DateTime
  chunkManifest : List ChunkMeta
  deriving DecidableEq

/-- `not t or not t.strip()`; surrogates are no spaces. -/
def isBlank (t : Text) : Bool := t.all fun p => p.toChar?.any isSpace

/-- `needle in t`. -/
def contains (needle : String) (t : Text) : Prop := Text.ofString needle <:+: t

instance (needle : String) (t : Text) : Decidable (contains needle t) :=
  inferInstanceAs (Decidable (Text.ofString needle <:+: t))

def validateFilename (filename : Text) : Except Exc Unit := do
  raiseIf (isBlank filename) (.valueError "filename cannot be empty")
  raiseIf (contains "/" filename ∨ contains "\\" filename)
    (.valueError "filename cannot contain path separators")
  raiseIf (contains "\x00" filename) (.valueError "filename cannot contain null bytes")
  raiseIf (filename.length > 255) (.valueError "filename cannot exceed 255 characters")

/-- `__post_init__`. -/
def SessionFields.postInit (f : SessionFields) : Except Exc Unit := do
  validateFilename f.filename
  raiseIf (f.size ≤ 0) (.valueError "size must be > 0")
  raiseIf (f.size > maxFileSizeBytes) (.fileSizeLimitExceededError f.size maxFileSizeBytes)
  raiseIf (f.mimeType ∉ allowedMimeTypes.map Text.ofString)
    (.unsupportedMediaTypeError f.mimeType.display allowedMimeTypes)
  raiseIf (f.offset < 0 ∨ f.offset > f.size) (.valueError "offset must be >= 0 and <= size")
  raiseIf (f.createdAt.tzinfo = none) (.valueError "created_at must be timezone-aware")
  raiseIf (f.expiresAt.tzinfo = none) (.valueError "expires_at must be timezone-aware")
  raiseIf (f.expiresAt.instant ≤ f.createdAt.instant)
    (.valueError "expires_at must be after created_at")

theorem SessionFields.postInit_eq_ok_iff (f : SessionFields) :
    f.postInit = .ok () ↔
      validateFilename f.filename = .ok () ∧ 0 < f.size ∧ f.size ≤ maxFileSizeBytes ∧
        f.mimeType ∈ allowedMimeTypes.map Text.ofString ∧ (0 ≤ f.offset ∧ f.offset ≤ f.size) ∧
        f.createdAt.tzinfo ≠ none ∧ f.expiresAt.tzinfo ≠ none ∧
        f.createdAt.instant < f.expiresAt.instant := by
  simp only [SessionFields.postInit, except_bind_eq_ok, raiseIf_eq_ok, Unique.exists_iff, not_not,
    not_or, Int.not_le, Int.not_lt, gt_iff_lt, ne_eq]

structure UploadSession extends SessionFields where
  valid : toSessionFields.postInit = .ok ()
  deriving DecidableEq

namespace UploadSession

def new (f : SessionFields) : Except Exc UploadSession :=
  match h : f.postInit with
  | .ok () => .ok ⟨f, h⟩
  | .error e => .error e

theorem new_toSessionFields (s : UploadSession) : new s.toSessionFields = .ok s := by
  unfold new
  split
  · rfl
  · next e h => rw [s.valid] at h; cases h

variable (s : UploadSession)

def withStatus (status : SessionStatus) : UploadSession :=
  { s with status := status, valid := s.valid }

def addChunk (chunkIndex chunkSize : ℤ) (chunkChecksum : Text) : Except Exc UploadSession := do
  raiseIf (chunkIndex < 0) (.valueError "chunk_index must be >= 0")
  raiseIf (chunkSize ≤ 0) (.valueError "chunk_size must be > 0")
  raiseIf (isBlank chunkChecksum) (.valueError "chunk_checksum cannot be empty")
  raiseIf (∃ c ∈ s.chunkManifest, c.index = chunkIndex)
    (.valueError s!"chunk_index {chunkIndex} already exists in manifest")
  pure { s with
    chunkManifest := s.chunkManifest ++ [⟨chunkIndex, chunkSize, chunkChecksum⟩]
    valid := s.valid }

def updateOffset (newOffset : ℤ) : Except Exc UploadSession :=
  if newOffset < 0 then .error (.valueError "new_offset must be >= 0")
  else if h : newOffset < s.offset then
    .error (.valueError "cannot decrease offset (non-monotonic update)")
  else if h' : newOffset > s.size then .error (.valueError "new_offset must be <= size")
  else .ok { s with
    offset := newOffset
    valid := by
      obtain ⟨hname, hpos, hmax, hmime, hoffset, hrest⟩ := s.postInit_eq_ok_iff.mp s.valid
      rw [SessionFields.postInit_eq_ok_iff]
      exact ⟨hname, hpos, hmax, hmime,
        ⟨Int.le_trans hoffset.1 (Int.not_lt.mp h), Int.not_lt.mp h'⟩, hrest⟩ }

def markInProgress : Except Exc UploadSession := do
  raiseIf s.status.Terminal (.valueError
    s!"Cannot transition from {s.status.value} to IN_PROGRESS (invalid state transition)")
  pure (s.withStatus .inProgress)

def markComplete : Except Exc UploadSession := do
  raiseIf s.status.Terminal (.valueError
    s!"Cannot transition from {s.status.value} to COMPLETE (invalid state transition)")
  raiseIf (s.offset < s.size) (.valueError "Cannot mark complete: offset < size")
  pure (s.withStatus .complete)

def markFailed : UploadSession := s.withStatus .failed

def markAborted : UploadSession := s.withStatus .aborted

end UploadSession

/-- The calls of the entity's methods that change it. -/
inductive Mutation where
  | addChunk (chunkIndex chunkSize : ℤ) (chunkChecksum : Text)
  | updateOffset (newOffset : ℤ)
  | markInProgress
  | markComplete
  | markFailed
  | markAborted

def UploadSession.mutate (s : UploadSession) : Mutation → Except Exc UploadSession
  | .addChunk chunkIndex chunkSize chunkChecksum => s.addChunk chunkIndex chunkSize chunkChecksum
  | .updateOffset newOffset => s.updateOffset newOffset
  | .markInProgress => s.markInProgress
  | .markComplete => s.markComplete
  | .markFailed => .ok s.markFailed
  | .markAborted => .ok s.markAborted

/-! ## The standard library -/

/-- What `json.loads` returns: a list of manifest entries, or a value of another type. -/
inductive Json where
  | list (entries : List ChunkMeta)
  | other (typeName : String)

/-- The functions that write and read the fields. -/
structure StandardLibrary where
  /-- `json.dumps`. -/
  dumps : List ChunkMeta → Text
  /-- `json.loads`. -/
  loads : Text → Except Exc Json
  /-- `datetime.isoformat`. -/
  isoformat : DateTime → Text
  /-- `datetime.fromisoformat`. -/
  fromisoformat : Text → Except Exc DateTime
  /-- `str` of a UUID. -/
  strUUID : UUID → Text
  /-- `UUID(...)`. -/
  parseUUID : Text → Except Exc UUID
  /-- `str` of an integer. -/
  strInt : ℤ → Text
  /-- `int(...)`. -/
  parseInt : Text → Except Exc ℤ

/-- Reading inverts writing, and what is written can be encoded. -/
structure StandardLibrary.Lawful (lib : StandardLibrary) : Prop where
  loads_dumps : ∀ manifest, lib.loads (lib.dumps manifest) = .ok (.list manifest)
  fromisoformat_isoformat : ∀ t : DateTime, t.tzinfo = some 0 →
    lib.fromisoformat (lib.isoformat t) = .ok t
  parseUUID_strUUID : ∀ u, lib.parseUUID (lib.strUUID u) = .ok u
  parseInt_strInt : ∀ n, lib.parseInt (lib.strInt n) = .ok n
  encodable_dumps : ∀ manifest, (lib.dumps manifest).Encodable
  encodable_isoformat : ∀ t, (lib.isoformat t).Encodable
  encodable_strUUID : ∀ u, (lib.strUUID u).Encodable
  encodable_strInt : ∀ n, (lib.strInt n).Encodable

/-! ## The hash -/

/-- A dictionary of strings. -/
abbrev Hash := List (Text × Text)

/-- `data[key]`. -/
def Hash.get (data : Hash) (key : String) : Except Exc Text :=
  match data.lookup (Text.ofString key) with
  | some value => .ok value
  | none => .error (.keyError key)

variable (lib : StandardLibrary)

/-- `_serialize_session`. -/
def serializeSession (session : UploadSession) : Hash :=
  [(.ofString "session_id", lib.strUUID session.sessionId),
    (.ofString "workspace_id", lib.strUUID session.workspaceId),
    (.ofString "filename", session.filename),
    (.ofString "size", lib.strInt session.size),
    (.ofString "mime_type", session.mimeType),
    (.ofString "sha256_checksum", .ofString session.sha256Checksum.value),
    (.ofString "offset", lib.strInt session.offset),
    (.ofString "status", .ofString session.status.value),
    (.ofString "created_at", lib.isoformat session.createdAt),
    (.ofString "expires_at", lib.isoformat session.expiresAt),
    (.ofString "chunk_manifest", lib.dumps session.chunkManifest)]

/-- `SHA256Hash(value)`; a surrogate is no hex digit. -/
def parseChecksum (value : Text) : Except Exc SHA256Hash :=
  match value.toString? with
  | some value => SHA256Hash.new value
  | none => .error (.valueError
      (if value.length ≠ 64 then s!"SHA-256 hash must be 64 chars, got {value.length}"
      else "SHA-256 hash must be lowercase hex"))

/-- `SessionStatus(value)`. -/
def parseStatus (value : Text) : Except Exc SessionStatus :=
  RedisSessionStore.parseStatus value.display

/-- `_deserialize_session`. -/
def deserializeSession (data : Hash) : Except Exc UploadSession := do
  let chunkManifestRaw ← lib.loads (← data.get "chunk_manifest")
  let chunkManifest ← match chunkManifestRaw with
    | .list entries => pure entries
    | .other typeName => throw (.serializationError
        s!"chunk_manifest must be a list, got {typeName}")
  let sessionId ← lib.parseUUID (← data.get "session_id")
  let workspaceId ← lib.parseUUID (← data.get "workspace_id")
  let filename ← data.get "filename"
  let size ← lib.parseInt (← data.get "size")
  let mimeType ← data.get "mime_type"
  let sha256Checksum ← parseChecksum (← data.get "sha256_checksum")
  let offset ← lib.parseInt (← data.get "offset")
  let status ← parseStatus (← data.get "status")
  let createdAt ← lib.fromisoformat (← data.get "created_at")
  let expiresAt ← lib.fromisoformat (← data.get "expires_at")
  UploadSession.new
    { sessionId, workspaceId, filename, size, mimeType, sha256Checksum, offset, status, createdAt
      expiresAt, chunkManifest }

/-- A field as the client sends it; `none` if its key or its value cannot be encoded. -/
def encodeField (field : Text × Text) : Option (ByteArray × ByteArray) := do
  pure (← field.1.encode, ← field.2.encode)

/-- A field as the store decodes it. -/
def decodeField (field : ByteArray × ByteArray) : Option (Text × Text) := do
  pure (← Text.decode field.1, ← Text.decode field.2)

def encodeHash (data : Hash) : Option (List (ByteArray × ByteArray)) := data.mapM encodeField

def decodeHash (data : List (ByteArray × ByteArray)) : Option Hash := data.mapM decodeField

end RagFileUploader.Textual
