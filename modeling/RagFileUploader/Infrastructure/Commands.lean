import RagFileUploader.Application.Ports
import RagFileUploader.Effects.Program

/-!
# Commands to the outside world

What the infrastructure sends to Redis, to S3 and to the event publisher, one constructor a
command, and the reply of each.  Redis keys and hashes are typed: a key is the pair or triple of
arguments its builder is called with, and a hash field holds the value that its text stands for.
Only the two fields that are parsed with a check, status and checksum, stay text.
-/

namespace RagFileUploader

open Effects

/-- The key `session:workspace_{workspace_id}:document_{document_id}`. -/
structure SessionKey where
  workspaceId : UUID
  documentId : UUID
  deriving DecidableEq

/-- The fields of a session hash. -/
structure SessionHash where
  sessionId : UUID
  workspaceId : UUID
  filename : String
  size : ℤ
  mimeType : String
  sha256Checksum : String
  offset : ℤ
  status : String
  createdAt : DateTime
  expiresAt : DateTime
  chunkManifest : List ChunkMeta
  deriving DecidableEq

/-- The S3 key `workspace_{workspace_id}/{file_id}.pdf`. -/
structure S3Key where
  workspaceId : UUID
  fileId : UUID
  deriving DecidableEq

def S3Key.str (key : S3Key) : String := s!"workspace_{key.workspaceId}/{key.fileId}.pdf"

instance : ToString S3Key := ⟨S3Key.str⟩

abbrev UploadId := ℕ

/-- S3 tags a part with a digest of its content; here the content stands for its digest. -/
abbrev ETag := Bytes

structure Part where
  partNumber : ℕ
  etag : ETag
  deriving DecidableEq

/-- The commands, under the names of the client libraries' methods. -/
inductive Command where
  /-- The pipeline of `create_session`, one transaction: both hashes with their lifetimes. -/
  | createSession (key : SessionKey) (data : SessionHash) (ttlSeconds : ℕ)
      (expiryMetadata : ExpiryMetadata) (expiryTtlSeconds : ℕ)
  | hgetallSession (key : SessionKey)
  | hgetallExpiry (sessionId : UUID)
  | ttlSession (key : SessionKey)
  | hsetSession (key : SessionKey) (data : SessionHash)
  /-- `DEL` of a session hash and of its expiry metadata. -/
  | deleteSession (key : SessionKey)
  | setChunk (key : ChunkKey) (data : Bytes) (ttlSeconds : ℕ)
  | getChunk (key : ChunkKey)
  | deleteChunk (key : ChunkKey)
  | hgetCounter (workspaceId : UUID)
  | hincrbyCounter (workspaceId : UUID) (amount : ℤ)
  | hsetCounter (workspaceId : UUID) (value : ℤ)
  | hexistsDedup (workspaceId : UUID) (sha256 : String)
  | hgetDedup (workspaceId : UUID) (sha256 : String)
  | hsetDedup (workspaceId : UUID) (sha256 : String) (metadata : MetadataFields)
  | headObject (key : S3Key)
  | createMultipartUpload (key : S3Key)
  | uploadPart (key : S3Key) (uploadId : UploadId) (partNumber : ℕ) (body : Bytes)
  | completeMultipartUpload (key : S3Key) (uploadId : UploadId) (parts : List Part)
  | abortMultipartUpload (key : S3Key) (uploadId : UploadId)
  | deleteObject (key : S3Key)
  | publish (event : FileLoadCompletedEvent)
  | uuid4
  | now
  deriving DecidableEq

/-- The reply to a command that succeeds.  An absent hash, value or header is `none`. -/
@[reducible] def Command.Reply : Command → Type
  | .hgetallSession _ => Option SessionHash
  | .hgetallExpiry _ => Option ExpiryMetadata
  | .ttlSession _ => ℤ
  | .deleteSession _ => ℕ
  | .getChunk _ => Option Bytes
  | .hgetCounter _ => Option ℤ
  | .hincrbyCounter _ _ => ℤ
  | .hexistsDedup _ _ => Bool
  | .hgetDedup _ _ => Option MetadataFields
  | .createMultipartUpload _ => Option UploadId
  | .uploadPart _ _ _ _ => Option ETag
  | .uuid4 => UUID
  | .now => DateTime
  | .createSession .. | .hsetSession .. | .setChunk .. | .deleteChunk _ | .hsetCounter ..
  | .hsetDedup .. | .headObject _ | .completeMultipartUpload .. | .abortMultipartUpload ..
  | .deleteObject _ | .publish _ => Unit

/-- The commands of the service, as a signature of programs. -/
@[reducible] def serviceSignature : Signature where
  Command := Command
  Reply := Command.Reply
  Exn := Exc

/-- A piece of the service that talks to the outside world. -/
abbrev Service := Program serviceSignature

/-- The parts of the outside world that break independently. -/
inductive Area where
  | sessions
  | chunks
  | counters
  | dedupLookup
  | dedupRegister
  | s3
  | publisher
  | runtime
  deriving DecidableEq, Repr

def Command.area : Command → Area
  | .createSession .. | .hgetallSession _ | .hgetallExpiry _ | .ttlSession _ | .hsetSession ..
  | .deleteSession _ => .sessions
  | .setChunk .. | .getChunk _ | .deleteChunk _ => .chunks
  | .hgetCounter _ | .hincrbyCounter .. | .hsetCounter .. => .counters
  | .hexistsDedup .. | .hgetDedup .. => .dedupLookup
  | .hsetDedup .. => .dedupRegister
  | .headObject _ | .createMultipartUpload _ | .uploadPart .. | .completeMultipartUpload ..
  | .abortMultipartUpload .. | .deleteObject _ => .s3
  | .publish _ => .publisher
  | .uuid4 | .now => .runtime

/-- The workspace that the command is about. -/
def Command.workspace? : Command → Option UUID
  | .createSession key .. | .hgetallSession key | .ttlSession key | .hsetSession key _
  | .deleteSession key => some key.workspaceId
  | .setChunk key .. | .getChunk key | .deleteChunk key => some key.workspaceId
  | .hgetCounter workspaceId | .hincrbyCounter workspaceId _ | .hsetCounter workspaceId _
  | .hexistsDedup workspaceId _ | .hgetDedup workspaceId _ | .hsetDedup workspaceId .. =>
      some workspaceId
  | .headObject key | .createMultipartUpload key | .uploadPart key ..
  | .completeMultipartUpload key .. | .abortMultipartUpload key _ | .deleteObject key =>
      some key.workspaceId
  | .publish event => some event.workspaceId
  | .hgetallExpiry _ | .uuid4 | .now => none

/-- The hash that the command stores in place of another one. -/
def Command.newHash? : Command → Option SessionHash
  | .hsetSession _ data => some data
  | _ => none

/-- The chunk that the command stores, with its key. -/
def Command.newChunk? : Command → Option (ChunkKey × Bytes)
  | .setChunk key data _ => some (key, data)
  | _ => none

end RagFileUploader
