import RagFileUploader.Domain.Records

/-!
# Ports

The protocols through which use cases reach their dependencies, as records of operations in a
monad `m` that can raise.  The use cases are written over any such records; infrastructure
supplies the real ones.
-/

namespace RagFileUploader

/-- `session:expiry:{session_id}` holds this, to tell an expired session from an unknown one. -/
structure ExpiryMetadata where
  sessionId : String
  workspaceId : String
  expiresAt : String
  filename : String
  deriving DecidableEq

/-- The key `chunk:workspace_{workspace_id}:session_{session_id}:index_{index}`. -/
structure ChunkKey where
  workspaceId : UUID
  sessionId : UUID
  index : ℤ
  deriving DecidableEq

structure ISessionStore (m : Type → Type) where
  createSession : UploadSession → m Unit
  getSession : UUID → UUID → m (Option UploadSession)
  getSessionWithExpiryInfo : UUID → UUID → m (Option UploadSession × Option ExpiryMetadata)
  updateSession : UploadSession → m Unit
  deleteSession : UUID → UUID → m Unit

structure IRateLimiter (m : Type → Type) where
  checkAndIncrement : UUID → m Unit
  decrement : UUID → m Unit
  getCurrentCount : UUID → m ℤ
  reset : UUID → m Unit

structure IStorageClient (m : Type → Type) where
  /-- Workspace, file id, chunks in order and expected checksum to path and size. -/
  assembleFile : UUID → UUID → List Bytes → SHA256Hash → m (String × ℤ)

structure IDeduplicationStore (m : Type → Type) where
  checkDuplicate : UUID → SHA256Hash → m (Option FileMetadata)
  registerFile : UUID → SHA256Hash → FileMetadata → m Unit

structure IEventPublisher (m : Type → Type) where
  publish : FileLoadCompletedEvent → m Unit

/-- The part of the Redis client that use cases call themselves. -/
structure RedisClient (m : Type → Type) where
  /-- `SET key data EX seconds`. -/
  set : ChunkKey → Bytes → ℕ → m Unit
  get : ChunkKey → m (Option Bytes)
  delete : ChunkKey → m Unit

/-- `uuid4()` and `datetime.now(UTC)`. -/
structure Runtime (m : Type → Type) where
  uuid4 : m UUID
  now : m DateTime

/-- Everything that use cases are constructed with. -/
structure Dependencies (m : Type → Type) where
  sessionStore : ISessionStore m
  storageClient : IStorageClient m
  dedupStore : IDeduplicationStore m
  eventPublisher : IEventPublisher m
  rateLimiter : IRateLimiter m
  redis : RedisClient m
  runtime : Runtime m

end RagFileUploader
