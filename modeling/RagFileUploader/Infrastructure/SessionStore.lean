import RagFileUploader.Infrastructure.Commands

/-!
# The Redis session store

`RedisSessionStore`: every operation builds its key, sends its commands, and translates the
exceptions that come back.
-/

namespace RagFileUploader

open Effects

/-- Send one command and wait for its reply. -/
def send (c : Command) : Service c.Reply := Program.perform (S := serviceSignature) c

/-! ## Keys -/

def validateWorkspaceId (workspaceId : UUID) : Except Exc Unit :=
  raiseIf (workspaceId.int = 0#128) (.valueError "NIL UUID not allowed for workspace_id")

def validateDocumentId (documentId : UUID) : Except Exc Unit :=
  raiseIf (documentId.int = 0#128) (.valueError "NIL UUID not allowed for document_id")

/-- `session_key`. -/
def sessionKey (workspaceId documentId : UUID) : Except Exc SessionKey := do
  validateWorkspaceId workspaceId
  validateDocumentId documentId
  pure ⟨workspaceId, documentId⟩

/-- A key that is named after the workspace alone. -/
def workspaceKey (workspaceId : UUID) : Except Exc UUID := do
  validateWorkspaceId workspaceId
  pure workspaceId

theorem workspaceKey_eq_ok {w key : UUID} (h : workspaceKey w = .ok key) : key = w := by
  simp only [workspaceKey, validateWorkspaceId, except_bind_eq_ok, raiseIf_eq_ok] at h
  obtain ⟨-, -, hkey⟩ := h
  cases hkey
  rfl

theorem workspaceKey_of_ne {w : UUID} (h : w.int ≠ 0#128) : workspaceKey w = .ok w := by
  simp [workspaceKey, validateWorkspaceId, h, pure, Except.pure]

/-- `dedup_key`. -/
def dedupKey (workspaceId : UUID) : Except Exc UUID := workspaceKey workspaceId

/-- `rate_limit_key`. -/
def rateLimitKey (workspaceId : UUID) : Except Exc UUID := workspaceKey workspaceId

namespace RedisSessionStore

def ttlSeconds : ℕ := 86400

def expiryTtlSeconds : ℕ := 604800

/-! ## Hash format -/

def serializeSession (session : UploadSession) : SessionHash where
  sessionId := session.sessionId
  workspaceId := session.workspaceId
  filename := session.filename
  size := session.size
  mimeType := session.mimeType
  sha256Checksum := session.sha256Checksum.value
  offset := session.offset
  status := session.status.value
  createdAt := session.createdAt
  expiresAt := session.expiresAt
  chunkManifest := session.chunkManifest

/-- `SessionStatus(value)`. -/
def parseStatus (value : String) : Except Exc SessionStatus :=
  match SessionStatus.ofValue? value with
  | some status => .ok status
  | none => .error (.valueError s!"'{value}' is not a valid SessionStatus")

def deserializeSession (data : SessionHash) : Except Exc UploadSession := do
  let sha256Checksum ← SHA256Hash.new data.sha256Checksum
  let status ← parseStatus data.status
  UploadSession.new
    { sessionId := data.sessionId
      workspaceId := data.workspaceId
      filename := data.filename
      size := data.size
      mimeType := data.mimeType
      sha256Checksum
      offset := data.offset
      status
      createdAt := data.createdAt
      expiresAt := data.expiresAt
      chunkManifest := data.chunkManifest }

def expiryMetadata (session : UploadSession) : ExpiryMetadata where
  sessionId := session.sessionId.str
  workspaceId := session.workspaceId.str
  expiresAt := session.expiresAt.isoformat
  filename := session.filename

/-! ## Exceptions -/

/-- The `except` clauses of the readers. -/
def readError (onRedis onData : String) (e : Exc) : Exc :=
  if e.isRedisError then .infrastructureError (onRedis ++ e.str)
  else if e.isKeyError || e.isValueError then .serializationError (onData ++ e.str)
  else e

/-- The `except` clauses of the writers. -/
def writeError (onRedis : String) (e : Exc) : Exc :=
  if e.isSessionNotFoundError then e
  else if e.isRedisError then .infrastructureError (onRedis ++ e.str)
  else if e.isTypeError || e.isValueError then
    .serializationError ("Failed to serialize session: " ++ e.str)
  else e

/-! ## Operations -/

def createSession (session : UploadSession) : Service Unit := do
  let key ← MonadExcept.ofExcept (sessionKey session.workspaceId session.sessionId)
  tryCatch
    (send (.createSession key (serializeSession session) ttlSeconds (expiryMetadata session)
      expiryTtlSeconds))
    fun e => throw (writeError "Failed to create session: " e)

def getSession (workspaceId sessionId : UUID) : Service (Option UploadSession) := do
  let key ← MonadExcept.ofExcept (sessionKey workspaceId sessionId)
  tryCatch
    (do
      match ← send (.hgetallSession key) with
      | none => pure none
      | some data => some <$> MonadExcept.ofExcept (deserializeSession data))
    fun e => throw (readError "Failed to retrieve session: " "Invalid session data: " e)

/-- What `get_session` makes of the reply to `HGETALL`. -/
def readReply : Except Exc (Option SessionHash) → Except Exc (Option UploadSession)
  | .ok none => .ok none
  | .ok (some data) =>
      match deserializeSession data with
      | .ok session => .ok (some session)
      | .error e => .error (readError "Failed to retrieve session: " "Invalid session data: " e)
  | .error e => .error (readError "Failed to retrieve session: " "Invalid session data: " e)

def getSessionWithExpiryInfo (workspaceId sessionId : UUID) :
    Service (Option UploadSession × Option ExpiryMetadata) := do
  let key ← MonadExcept.ofExcept (sessionKey workspaceId sessionId)
  tryCatch
    (do
      match ← send (.hgetallSession key) with
      | some data => do
          let session ← MonadExcept.ofExcept (deserializeSession data)
          pure (some session, none)
      | none =>
          match ← send (.hgetallExpiry sessionId) with
          | some expiryMetadata =>
              -- metadata of another workspace counts as not found
              if expiryMetadata.workspaceId ≠ workspaceId.str then pure (none, none)
              else pure (none, some expiryMetadata)
          | none => pure (none, none))
    fun e => throw (readError "Failed to retrieve session with expiry info: "
      "Invalid session or expiry data: " e)

/-- What `get_session_with_expiry_info` makes of the hash and of the metadata. -/
def infoReply (workspaceId : UUID) (hash? : Option SessionHash)
    (metadata? : Option ExpiryMetadata) :
    Except Exc (Option UploadSession × Option ExpiryMetadata) :=
  match hash? with
  | some data =>
      match deserializeSession data with
      | .ok session => .ok (some session, none)
      | .error e => .error (readError "Failed to retrieve session with expiry info: "
          "Invalid session or expiry data: " e)
  | none =>
      match metadata? with
      | some metadata =>
          if metadata.workspaceId ≠ workspaceId.str then .ok (none, none)
          else .ok (none, some metadata)
      | none => .ok (none, none)

def updateSession (session : UploadSession) : Service Unit := do
  let key ← MonadExcept.ofExcept (sessionKey session.workspaceId session.sessionId)
  tryCatch
    (do
      let ttl : ℤ ← send (.ttlSession key)
      -- a key without a deadline (-1) is only logged
      raiseIf (ttl = -2) (.uploadSessionNotFoundError
        s!"Session not found: workspace_id={session.workspaceId}, session_id={session.sessionId}")
      send (.hsetSession key (serializeSession session)))
    fun e => throw (writeError "Failed to update session: " e)

def deleteSession (workspaceId sessionId : UUID) : Service Unit := do
  let key ← MonadExcept.ofExcept (sessionKey workspaceId sessionId)
  tryExcept (discard (send (.deleteSession key))) Exc.isRedisError fun e =>
    throw (.infrastructureError s!"Failed to delete session: {e.str}")

def port : ISessionStore Service where
  createSession := createSession
  getSession := getSession
  getSessionWithExpiryInfo := getSessionWithExpiryInfo
  updateSession := updateSession
  deleteSession := deleteSession

end RedisSessionStore

end RagFileUploader
