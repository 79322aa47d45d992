import RagFileUploader.Concurrent.Reachable
import RagFileUploader.Presentation.QueryUploadOffset

/-!
# Whose session it is

Completions and aborts check that the session which they have read is one of the caller's
workspace, and raise `WorkspaceMismatchError` if it is not.  Sessions are filed under their own
keys, so the check never fails: as long as no command raises that exception by itself, no call
does.

* `ownershipMonitor` grants that what is read under a key is the hash of a session with that key;
  `Matching` says that the program then does not raise the exception.
* `matching_getSession_bind` hands on the workspace of the session that was read, and
  `raises_validateSession_of_eq` and `AbortUploadUseCase.matching_execute` settle the check by it.
* Everything else follows the structure of the programs: the clients first, then the use cases,
  then the offset query.
-/

namespace RagFileUploader

open Effects

variable {env : Environment} {settings : Settings} {σ : World} {w s : UUID} {α β : Type}

/-- Anything but the exception of a failed check. -/
def Exc.isNoMismatch (e : Exc) : Bool := !e.isWorkspaceMismatchError

theorem isNoMismatch_of_isPlain {e : Exc} (h : e.isPlain = true) : e.isNoMismatch = true :=
  (Bool.and_eq_true_iff.mp h).2

/-- Sessions are read under their own keys, and no command raises the exception. -/
def ownershipMonitor : Monitor serviceSignature Unit where
  may := fun _ _ => True
  replies := fun _ c reply => Raises Exc.isNoMismatch reply ∧ c.Finds (fun _ => True) reply
  after := fun _ _ _ => ()

/-- The program does not raise it either. -/
def Matching (p : Service α) : Prop :=
  p.Obeys ownershipMonitor (fun r _ => Raises Exc.isNoMismatch r) ()

/-! ## Parts of programs -/

theorem matching_ofExcept {r : Except Exc α} (h : Raises Exc.isNoMismatch r) :
    Matching (MonadExcept.ofExcept r) := obeys_ofExcept.mpr h

theorem matching_of_plain {r : Except Exc α} (h : Raises Exc.isPlain r) :
    Matching (MonadExcept.ofExcept r) :=
  matching_ofExcept fun e he => isNoMismatch_of_isPlain (h e he)

theorem matching_pure (a : α) : Matching (pure a) := raises_ok a

theorem matching_throw {e : Exc} (h : e.isNoMismatch = true) : Matching (throw e : Service α) :=
  raises_error h

theorem matching_send {c : Command} : Matching (send c) :=
  Program.obeys_perform.mpr ⟨trivial, fun _ h => h.1⟩

theorem Matching.bind {p : Service α} {f : α → Service β} (hp : Matching p)
    (hf : ∀ a, Matching (f a)) : Matching (p >>= f) := by
  rw [Matching, Program.obeys_bind]
  refine Program.obeys_mono hp fun r _ h => ?_
  cases r with
  | ok a => exact hf a
  | error e => exact raises_error (h e rfl)

theorem Matching.map {p : Service α} {f : α → β} (hp : Matching p) : Matching (f <$> p) :=
  hp.bind fun a => matching_pure (f a)

theorem Matching.tryCatch {p : Service α} {handler : Exc → Service α} (hp : Matching p)
    (hh : ∀ e, e.isNoMismatch = true → Matching (handler e)) : Matching (tryCatch p handler) := by
  rw [Matching, Program.obeys_tryCatch]
  refine Program.obeys_mono hp fun r _ h => ?_
  cases r with
  | ok a => exact raises_ok a
  | error e => exact hh e (h e rfl)

theorem Matching.tryExcept {p : Service α} {catches : Exc → Bool} {handler : Exc → Service α}
    (hp : Matching p) (hh : ∀ e, e.isNoMismatch = true → Matching (handler e)) :
    Matching (tryExcept p catches handler) := by
  refine Matching.tryCatch hp fun e he => ?_
  split
  · exact hh e he
  · exact matching_throw he

/-- An `except` clause that raises something else. -/
theorem matching_translate {p : Service α} {translate : Exc → Exc} (hp : Matching p)
    (h : ∀ e, e.isNoMismatch = true → (translate e).isNoMismatch = true) :
    Matching (tryCatch p fun e => throw (translate e)) :=
  hp.tryCatch fun e he => matching_throw (h e he)

theorem matching_swallow {p : Service Unit} {catches : Exc → Bool} (hp : Matching p) :
    Matching (tryExcept p catches fun _ => pure ()) :=
  hp.tryExcept fun _ _ => matching_pure ()

/-- Going on with an exception as with a value. -/
theorem matching_caught_bind {p : Service α} {f : Except Exc α → Service β} (hp : Matching p)
    (hok : ∀ a, Matching (f (.ok a)))
    (herror : ∀ e, e.isNoMismatch = true → Matching (f (.error e))) :
    Matching (tryCatch (Except.ok <$> p) (fun e => pure (Except.error e)) >>= f) := by
  rw [Matching, Program.obeys_bind, Program.obeys_tryCatch]
  refine obeys_map (Program.obeys_mono hp fun r _ h => ?_)
  cases r with
  | ok a => exact hok a
  | error e => exact herror e (h e rfl)

theorem matching_raiseIf {c : Prop} [Decidable c] {e : Exc} (h : e.isNoMismatch = true) :
    Matching (raiseIf c e) := by
  unfold raiseIf
  split
  · exact matching_throw h
  · exact matching_pure ()

theorem matching_mapM {f : α → Service β} {l : List α} (h : ∀ a, Matching (f a)) :
    Matching (l.mapM f) := by
  induction l with
  | nil => exact matching_pure []
  | cons a l ih =>
      rw [List.mapM_cons]
      exact (h a).bind fun _ => ih.bind fun _ => matching_pure _

/-! ## The stores -/

theorem isNoMismatch_readError (onRedis onData : String) {e : Exc} (h : e.isNoMismatch = true) :
    (RedisSessionStore.readError onRedis onData e).isNoMismatch = true := by
  unfold RedisSessionStore.readError
  split
  · rfl
  · split
    · rfl
    · exact h

theorem isNoMismatch_writeError (onRedis : String) {e : Exc} (h : e.isNoMismatch = true) :
    (RedisSessionStore.writeError onRedis e).isNoMismatch = true := by
  unfold RedisSessionStore.writeError
  split
  · exact h
  · split
    · rfl
    · split
      · rfl
      · exact h

theorem matching_sessionKey_bind {f : SessionKey → Service α} (hf : Matching (f ⟨w, s⟩)) :
    Matching (MonadExcept.ofExcept (sessionKey w s) >>= f) := by
  refine obeys_ofExcept_bind (fun key hkey => ?_) fun e he =>
    raises_error (isNoMismatch_of_isPlain (sessionKey_eq_error he).2)
  obtain ⟨rfl, -⟩ := sessionKey_eq_ok hkey
  exact hf

theorem matching_workspaceKey_bind {f : UUID → Service α} (hf : Matching (f w)) :
    Matching (MonadExcept.ofExcept (workspaceKey w) >>= f) := by
  refine obeys_ofExcept_bind (fun key hkey => ?_) fun e he =>
    raises_error (isNoMismatch_of_isPlain (workspaceKey_eq_error he).2)
  obtain rfl := workspaceKey_eq_ok hkey
  exact hf

/-- Reading a hash: what is there is the hash of a session of the workspace. -/
theorem obeys_hgetallSession {Q : Except Exc (Option SessionHash) → Unit → Prop}
    (herror : ∀ e, e.isNoMismatch = true → Q (.error e) ()) (hnone : Q (.ok none) ())
    (hsome : ∀ session : UploadSession, session.workspaceId = w →
      Q (.ok (some (RedisSessionStore.serializeSession session))) ()) :
    (send (.hgetallSession ⟨w, s⟩)).Obeys ownershipMonitor Q () := by
  refine obeys_send trivial fun reply hreply => ?_
  obtain ⟨hraises, hfinds⟩ := hreply
  rcases reply with e | data?
  · exact herror e (hraises e rfl)
  · cases data? with
    | none => exact hnone
    | some data =>
        obtain ⟨-, session, hkey, rfl, -⟩ := hfinds
        exact hsome session (congrArg SessionKey.workspaceId hkey)

/-- The session that a call reads is one of the workspace that it looks under. -/
theorem matching_getSession_bind {f : Option UploadSession → Service α} (hnone : Matching (f none))
    (hsome : ∀ session : UploadSession, session.workspaceId = w → Matching (f (some session))) :
    Matching (RedisSessionStore.getSession w s >>= f) := by
  rw [Matching, Program.obeys_bind]
  refine obeys_ofExcept_bind (fun key hkey => ?_) fun e he =>
    raises_error (isNoMismatch_of_isPlain (sessionKey_eq_error he).2)
  obtain ⟨rfl, -⟩ := sessionKey_eq_ok hkey
  rw [Program.obeys_tryCatch, Program.obeys_bind]
  refine obeys_hgetallSession (fun e he => raises_error (isNoMismatch_readError _ _ he)) hnone
    fun session hw => ?_
  dsimp only
  rw [RedisSessionStore.deserialize_serialize]
  exact hsome session hw

theorem matching_updateSession (session : UploadSession) :
    Matching (RedisSessionStore.updateSession session) := by
  refine matching_sessionKey_bind (matching_translate ?_ fun e he => isNoMismatch_writeError _ he)
  exact matching_send.bind fun ttl => (matching_raiseIf rfl).bind fun _ => matching_send

theorem matching_createSession (session : UploadSession) :
    Matching (RedisSessionStore.createSession session) :=
  matching_sessionKey_bind
    (matching_translate matching_send fun _ he => isNoMismatch_writeError _ he)

theorem matching_deleteSession : Matching (RedisSessionStore.deleteSession w s) :=
  matching_sessionKey_bind (matching_send.map.tryExcept fun _ _ => matching_throw rfl)

theorem matching_decrement : Matching (RedisRateLimiter.decrement w) := by
  refine matching_workspaceKey_bind (matching_translate (matching_send.bind fun count => ?_)
    fun e he => ?_)
  · split
    · exact matching_send
    · exact matching_pure ()
  · unfold RedisRateLimiter.unavailable
    split
    · rfl
    · exact he

theorem isNoMismatch_rateLimitExceeded (name : String) (current limit retryAfter : ℤ) :
    (Exc.rateLimitExceeded name current limit retryAfter).isNoMismatch = true := by
  unfold Exc.rateLimitExceeded
  repeat' first | split | rfl

theorem matching_checkAndIncrement : Matching (RedisRateLimiter.checkAndIncrement settings w) := by
  refine matching_workspaceKey_bind (matching_translate ?_ fun e he => ?_)
  · exact matching_send.bind fun current? =>
      (matching_raiseIf (isNoMismatch_rateLimitExceeded _ _ _ _)).bind fun _ => matching_send.map
  · unfold RedisRateLimiter.readError
    split
    · exact he
    · split
      · rfl
      · split
        · rfl
        · exact he

theorem matching_checkDuplicate {sha256 : SHA256Hash} :
    Matching (RedisDeduplicationStore.checkDuplicate w sha256) := by
  refine Matching.tryExcept (matching_workspaceKey_bind ?_) fun _ _ => matching_throw rfl
  refine matching_send.bind fun found => ?_
  split
  · refine matching_send.bind fun metadata? => ?_
    cases metadata? with
    | none => exact matching_pure none
    | some metadata =>
        exact Matching.map (matching_of_plain RedisDeduplicationStore.raises_deserialize)
  · exact matching_pure none

theorem matching_registerFile {sha256 : SHA256Hash} {metadata : FileMetadata} :
    Matching (RedisDeduplicationStore.registerFile w sha256 metadata) := by
  refine Matching.tryExcept (matching_workspaceKey_bind ?_) fun _ _ => matching_throw rfl
  refine (matching_of_plain ?_).bind fun data => matching_send
  exact raises_bind (raises_raiseIf rfl) fun _ => raises_pure _

/-! ## Storage -/

namespace S3StorageClient

variable {key : S3Key} {uploadId : UploadId} {fileId : UUID}

theorem matching_checkFileExists : Matching (checkFileExists key fileId) := by
  refine Matching.tryExcept (matching_send.bind fun _ => matching_throw rfl) fun e he => ?_
  split
  · exact matching_pure ()
  · exact matching_throw he

theorem matching_gather {tasks : List (Service α)} (h : ∀ task ∈ tasks, Matching task) :
    Matching (gather tasks) := by
  induction tasks with
  | nil => exact matching_pure []
  | cons task tasks ih =>
      obtain ⟨htask, htasks⟩ := List.forall_mem_cons.mp h
      refine matching_caught_bind htask (fun a => ?_) fun e he => ?_
      · exact (ih htasks).bind fun rest => matching_pure _
      · refine Matching.bind (Matching.map ?_) fun _ => matching_throw he
        exact Matching.tryCatch (ih htasks).map fun e _ => matching_pure _

theorem matching_uploadPart {partNum : ℕ} {chunk : Bytes} :
    Matching (uploadPart key uploadId partNum chunk) := by
  refine matching_send.bind fun etag? => ?_
  cases etag? with
  | none => exact matching_throw rfl
  | some etag => exact matching_pure _

theorem matching_abortMultipartUpload (uploadId : Option UploadId) :
    Matching (abortMultipartUpload key uploadId) := by
  cases uploadId with
  | none => exact matching_pure ()
  | some uploadId => exact matching_swallow matching_send

theorem matching_assembleFailed {uploadId : Option UploadId} {e : Exc}
    (he : e.isNoMismatch = true) :
    Matching (assembleFailed settings key uploadId e : Service α) := by
  have hreplaced : ∀ message, Matching (abortMultipartUpload key uploadId >>= fun _ =>
      throw (.infrastructureError message) : Service α) := fun _ =>
    (matching_abortMultipartUpload uploadId).bind fun _ => matching_throw rfl
  unfold assembleFailed
  split
  · exact matching_throw he
  · split
    · exact hreplaced _
    · split
      · exact hreplaced _
      · exact matching_throw he

theorem matching_beginUpload : Matching (beginUpload key fileId) := by
  refine matching_checkFileExists.bind fun _ => matching_send.bind fun response => ?_
  cases response with
  | none => exact matching_throw rfl
  | some uploadId => exact matching_pure uploadId

theorem matching_uploadParts {chunks : List Bytes} {expected : SHA256Hash} :
    Matching (uploadParts settings key fileId uploadId chunks expected) := by
  refine Matching.bind (matching_gather fun task htask => ?_) fun parts =>
    matching_send.bind fun _ => ?_
  · obtain ⟨⟨chunk, partNum⟩, -, rfl⟩ := List.mem_map.mp htask
    exact matching_uploadPart
  · split
    · exact (matching_swallow matching_send).bind fun _ => matching_throw rfl
    · exact matching_pure _

theorem matching_assembleFile {chunks : List Bytes} {expected : SHA256Hash} :
    Matching (assembleFile settings w fileId chunks expected) := by
  refine (matching_of_plain raises_validateChunkData).bind fun _ =>
    (matching_ofExcept (raises_raiseIf rfl)).bind fun _ => ?_
  refine Matching.bind (matching_beginUpload.tryCatch fun e he => matching_assembleFailed he)
    fun uploadId => ?_
  exact matching_uploadParts.tryCatch fun e he => matching_assembleFailed he

end S3StorageClient

/-! ## The use cases -/

theorem InitiateUploadUseCase.matching_execute (request : InitiateUploadRequest) :
    Matching (execute (dependencies settings) request) := by
  refine (matching_of_plain raises_validate).bind fun _ =>
    matching_checkAndIncrement.bind fun _ => Matching.tryExcept ?_ fun e he => ?_
  · refine matching_send.bind fun sessionId => matching_send.bind fun createdAt => ?_
    refine (matching_of_plain raises_newSession).bind fun session =>
      (matching_createSession session).bind fun _ => ?_
    exact matching_ofExcept (raises_bind (raises_raiseIf rfl) fun _ =>
      raises_bind (raises_raiseIf rfl) fun _ => raises_pure _)
  · exact (matching_swallow matching_decrement).bind fun _ => matching_throw he

namespace ProcessChunkUseCase

variable {request : ProcessChunkRequest} {session : UploadSession} {index newOffset : ℤ}

theorem raises_validate : Raises Exc.isNoMismatch (validate session request) := by
  have hoffset : ∀ expected received s,
      (Exc.offsetMismatch expected received s).isNoMismatch = true := by
    intro expected received s
    unfold Exc.offsetMismatch
    repeat' first | split | rfl
  have hchecksum : ∀ expected computed index size,
      (Exc.checksumMismatch expected computed index size).isNoMismatch = true := by
    intro expected computed index size
    unfold Exc.checksumMismatch
    repeat' first | split | rfl
  refine raises_bind (raises_raiseIf rfl) fun _ => raises_bind (raises_raiseIf (hoffset _ _ _))
    fun _ => raises_bind (raises_raiseIf rfl) fun _ => raises_bind (raises_raiseIf rfl) fun _ => ?_
  refine raises_bind (raises_bind (raises_raiseIf rfl) fun _ => ?_) fun _ => raises_pure _
  exact raises_bind (SHA256Hash.raises_new (fun _ => rfl) _) fun _ =>
    raises_raiseIf (hchecksum _ _ _ _)

theorem matching_execute (request : ProcessChunkRequest) :
    Matching (execute (dependencies settings) request) := by
  refine matching_getSession_bind (matching_throw rfl) fun session _ => ?_
  refine (matching_ofExcept raises_validate).bind fun index => ?_
  refine Matching.bind (matching_send.tryExcept fun _ _ => matching_throw rfl) fun _ => ?_
  exact (matching_ofExcept (raises_recordChunk fun _ => rfl)).bind fun next =>
    (matching_updateSession next).bind fun _ => matching_pure _

end ProcessChunkUseCase

theorem AbortUploadUseCase.matching_execute (w s : UUID) :
    Matching (execute (dependencies settings) w s) := by
  refine matching_getSession_bind (matching_throw rfl) fun session hw => ?_
  refine (matching_ofExcept (raises_bind (raises_raiseIf rfl) fun _ => ?_)).bind fun _ => ?_
  · exact fun e he => absurd hw (raiseIf_eq_error.mp he).1
  · exact (matching_updateSession _).bind fun _ => matching_deleteSession.bind fun _ =>
      matching_swallow matching_decrement

namespace CompleteUploadUseCase

variable {request : CompleteUploadRequest} {session : UploadSession} {s3Path : String}
  {finalSize : ℤ}

/-- The validation of a session of the caller's workspace. -/
theorem raises_validateSession_of_eq (hw : session.workspaceId = request.workspaceId) :
    Raises Exc.isNoMismatch (validateSession request session) := by
  refine raises_bind (fun e he => absurd hw (raiseIf_eq_error.mp he).1) fun _ =>
    raises_bind (raises_raiseIf rfl) fun _ => raises_bind ?_ fun _ => raises_raiseIf rfl
  exact raises_bind (raises_raiseIf rfl) fun _ => raises_bind (raises_raiseIf rfl) fun _ =>
    raises_raiseIf rfl

theorem matching_retrieveChunk (c : ChunkMeta) :
    Matching (retrieveChunk (dependencies settings) w s c) := by
  refine Matching.tryExcept (matching_send.bind fun data? => ?_) fun e he => ?_
  · cases data? with
    | none => exact matching_throw rfl
    | some data => exact matching_pure data
  · split
    · exact matching_throw he
    · exact matching_throw rfl

theorem matching_failed {e : Exc} (he : e.isNoMismatch = true) :
    Matching (RedisSessionStore.updateSession session.markFailed >>= fun _ => throw e :
      Service α) :=
  (matching_updateSession _).bind fun _ => matching_throw he

theorem isNoMismatch_duplicateFile (sha256 : SHA256Hash) (fileId : UUID) (path : String)
    (uploadedAt : DateTime) :
    (Exc.duplicateFile sha256 fileId path uploadedAt).isNoMismatch = true := by
  unfold Exc.duplicateFile
  repeat' first | split | rfl

theorem matching_assemble : Matching (assemble (dependencies settings) request session) := by
  refine (matching_mapM matching_retrieveChunk).bind fun chunks =>
    S3StorageClient.matching_assembleFile.bind fun file =>
      matching_checkDuplicate.bind fun duplicate? => ?_
  cases duplicate? with
  | none => exact matching_pure _
  | some duplicate => exact matching_failed (isNoMismatch_duplicateFile _ _ _ _)

theorem matching_publish :
    Matching (publish (dependencies settings) request session s3Path finalSize) := by
  refine matching_send.bind fun uploadedAt => matching_send.bind fun timestamp => ?_
  refine (matching_ofExcept (FileLoadCompletedEvent.raises_new (fun _ => rfl) _)).bind
    fun event => ?_
  exact matching_send.tryExcept fun e he => matching_failed he

theorem matching_register :
    Matching (register (dependencies settings) request session s3Path finalSize) :=
  matching_send.bind fun _ => (matching_ofExcept (FileMetadata.raises_new (fun _ => rfl) _)).bind
    fun _ => matching_registerFile

theorem matching_cleanupChunks (manifest : List ChunkMeta) :
    Matching (cleanupChunks (dependencies settings) w s manifest) := by
  unfold cleanupChunks
  induction manifest with
  | nil => exact matching_pure ()
  | cons c manifest ih => exact (matching_swallow matching_send).bind fun _ => ih

theorem matching_finish :
    Matching (finish (dependencies settings) request session s3Path finalSize) := by
  refine (matching_ofExcept ?_).bind fun done => (matching_updateSession done).bind fun _ => ?_
  · exact raises_bind (raises_raiseIf rfl) fun _ => raises_bind (raises_raiseIf rfl) fun _ =>
      raises_pure _
  · refine (matching_swallow matching_decrement).bind fun _ =>
      (matching_swallow matching_register).bind fun _ =>
        (matching_swallow (matching_cleanupChunks _)).bind fun _ => matching_ofExcept ?_
    exact raises_bind (raises_raiseIf rfl) fun _ => raises_bind (raises_raiseIf rfl) fun _ =>
      raises_pure _

theorem matching_settle {e : Exc} (he : e.isNoMismatch = true) :
    Matching (settle (dependencies settings) session e) := by
  rw [settle_eq]
  split
  · exact (matching_swallow (matching_updateSession _)).bind fun _ => matching_throw he
  · exact matching_throw he

theorem matching_execute (request : CompleteUploadRequest) :
    Matching (execute (dependencies settings) request) := by
  refine matching_getSession_bind (matching_throw rfl) fun session hw => ?_
  refine Matching.tryCatch ?_ fun e he => matching_settle he
  exact (matching_ofExcept (raises_validateSession_of_eq hw)).bind fun _ =>
    matching_assemble.bind fun file => matching_publish.bind fun _ => matching_finish

end CompleteUploadUseCase

theorem Call.matching_program (c : Call) : Matching (c.program settings) := by
  cases c with
  | initiate request => exact (InitiateUploadUseCase.matching_execute request).map
  | processChunk request => exact (ProcessChunkUseCase.matching_execute request).map
  | complete request => exact (CompleteUploadUseCase.matching_execute request).map
  | abort w s => exact (AbortUploadUseCase.matching_execute w s).map

/-! ## The offset query -/

theorem matching_getSessionWithExpiryInfo :
    Matching (RedisSessionStore.getSessionWithExpiryInfo w s) := by
  refine matching_sessionKey_bind (matching_translate ?_ fun e he => isNoMismatch_readError _ _ he)
  rw [Matching, Program.obeys_bind]
  refine obeys_hgetallSession (fun e he => raises_error he)
    (Matching.bind matching_send fun metadata? => ?_) fun session _ => ?_
  · cases metadata? with
    | none => exact matching_pure _
    | some metadata =>
        dsimp only
        split
        · exact matching_pure _
        · exact matching_pure _
  · dsimp only
    rw [RedisSessionStore.deserialize_serialize]
    exact matching_pure _

namespace QueryUploadOffset

theorem matching_lookup : Matching (lookup (dependencies settings) w s) := by
  refine Matching.tryCatch matching_getSessionWithExpiryInfo.map fun e he => Matching.map ?_
  unfold lookupError
  split
  · exact matching_pure _
  · split
    · exact matching_pure _
    · split
      · exact matching_pure _
      · exact matching_throw he

theorem matching_missing (metadata? : Option ExpiryMetadata) :
    Matching (missing (dependencies settings) s metadata?) := by
  cases metadata? with
  | none => exact matching_pure _
  | some metadata =>
      unfold missing
      dsimp only
      split
      · exact matching_pure _
      · exact matching_send.bind fun now => (matching_ofExcept
          (raises_bind (raises_raiseIf rfl) fun _ => raises_pure _)).bind fun _ => matching_pure _

theorem matching_execute : Matching (execute (dependencies settings) w s) := by
  refine matching_lookup.bind fun found => ?_
  match found with
  | .error e => exact matching_pure _
  | .ok (some session, _) => exact matching_pure _
  | .ok (none, metadata?) => exact (matching_missing metadata?).map

end QueryUploadOffset

/-! ## The commands -/

theorem Fault.exn_of_hits {f : Fault} {c : Command} {e : Exc} (h : f.hits c = some e) :
    f.exn = e := by
  unfold hits at h
  split at h
  · exact Option.some_injective _ h
  · cases h

/-- The commands do not raise it by themselves. -/
theorem Command.raises_act (c : Command) : Raises Exc.isNoMismatch (c.act env σ).1 := by
  cases c with
  | headObject | uploadPart | completeMultipartUpload | abortMultipartUpload =>
      simp only [act]
      repeat' first | split | exact raises_ok _ | exact raises_error rfl
  | _ => exact raises_ok _

end RagFileUploader
