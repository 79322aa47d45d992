import RagFileUploader.Infrastructure.SessionStore

/-!
# The Redis rate limiter

`RedisRateLimiter`: one counter a workspace, read and then incremented, and clamped at zero when
a decrement takes it below.
-/

namespace RagFileUploader

open Effects

/-- The part of `AppSettings` that the service reads, as its constructors accept it. -/
structure Settings where
  s3BucketName : String
  maxConcurrentUploads : ℤ
  bucket_ne_empty : s3BucketName ≠ ""
  max_pos : 0 < maxConcurrentUploads

namespace RedisRateLimiter

/-- `except redis.exceptions.RedisError`. -/
def unavailable (e : Exc) : Exc :=
  if e.isRedisError then .infrastructureError s!"Rate limiter unavailable: {e.str}" else e

/-- The `except` clauses around reading a counter. -/
def readError (e : Exc) : Exc :=
  if e.isRateLimitExceededError then e
  else if e.isRedisError then .infrastructureError s!"Rate limiter unavailable: {e.str}"
  else if e.isValueError then .infrastructureError s!"Rate limiter counter corrupted: {e.str}"
  else e

def checkAndIncrement (settings : Settings) (workspaceId : UUID) : Service Unit := do
  let key ← MonadExcept.ofExcept (rateLimitKey workspaceId)
  tryCatch
    (do
      let current? : Option ℤ ← send (.hgetCounter key)
      let current := current?.getD 0
      raiseIf (current ≥ settings.maxConcurrentUploads)
        (.rateLimitExceeded workspaceId.str current settings.maxConcurrentUploads 60)
      discard (send (.hincrbyCounter key 1)))
    fun e => throw (readError e)

def decrement (workspaceId : UUID) : Service Unit := do
  let key ← MonadExcept.ofExcept (rateLimitKey workspaceId)
  tryCatch
    (do
      let newCount : ℤ ← send (.hincrbyCounter key (-1))
      if newCount < 0 then send (.hsetCounter key 0) else pure ())
    fun e => throw (unavailable e)

def getCurrentCount (workspaceId : UUID) : Service ℤ := do
  let key ← MonadExcept.ofExcept (rateLimitKey workspaceId)
  tryCatch
    (do
      let count? : Option ℤ ← send (.hgetCounter key)
      let count := count?.getD 0
      if count < 0 then do
        send (.hsetCounter key 0)
        pure 0
      else pure count)
    fun e => throw (readError e)

def reset (workspaceId : UUID) : Service Unit := do
  let key ← MonadExcept.ofExcept (rateLimitKey workspaceId)
  tryCatch (send (.hsetCounter key 0)) fun e => throw (unavailable e)

def port (settings : Settings) : IRateLimiter Service where
  checkAndIncrement := checkAndIncrement settings
  decrement := decrement
  getCurrentCount := getCurrentCount
  reset := reset

end RedisRateLimiter

end RagFileUploader
