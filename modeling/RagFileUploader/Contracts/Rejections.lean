import RagFileUploader.Concurrent.Reachable
import RagFileUploader.Serial.Resumption

/-!
# Rejected chunks

A chunk is checked before its bytes are stored, but for one check: that it ends within the declared
size.  The entity makes that one when the offset moves, and by then the bytes are under the next
chunk key.  All other rejections leave the session hash and the chunk keys as they were.
-/

namespace RagFileUploader

open Effects Stores

variable {env : Environment} {settings : Settings} {σ σ' : World}

/-- The entries of the manifest are numbered below its length. -/
def Numbered (session : UploadSession) : Prop :=
  ∀ c ∈ session.chunkManifest, c.index < session.chunkManifest.length

theorem preserved_numbered : Preserved Numbered where
  fresh := fun hnew c hc => by
    rw [(InitiateUploadUseCase.newSession_eq_ok hnew).2.2.2.1] at hc
    cases hc
  record := fun {request session session' index} h hvalid hrecord c hc => by
    obtain ⟨hactive, -, -, -, hindex⟩ := ProcessChunkUseCase.validate_eq_ok hvalid
    have hmanifest : session'.chunkManifest = session.chunkManifest ++
        [⟨index, request.chunkData.length, request.chunkChecksum⟩] := by
      rw [ProcessChunkUseCase.recordChunk_eq_ok hrecord hactive]
    rw [hmanifest] at hc ⊢
    rw [List.length_append, List.length_singleton]
    rcases List.mem_append.mp hc with hc | hc
    · have := h c hc
      omega
    · obtain rfl := List.mem_singleton.mp hc
      dsimp only
      omega
  status := fun _ h => h

namespace ProcessChunkUseCase

variable {request : ProcessChunkRequest} {session session' : UploadSession} {index : ℤ} {e : Exc}

/-- The chunk passes every check that comes before its bytes are stored, and runs past the declared
size. -/
structure Overruns (σ : World) (request : ProcessChunkRequest) (session : UploadSession) :
    Prop where
  reads : σ.Reads request.workspaceId request.sessionId session
  active : ¬ session.status.Terminal
  offset : request.chunkOffset = session.offset
  size : (request.chunkData.length : ℤ) ≤ maxChunkSize
  checksum : request.chunkChecksum = sha256Hexdigest request.chunkData
  past : session.size < session.offset + request.chunkData.length

/-- The key under which the next chunk of the session is stored. -/
def nextKey (request : ProcessChunkRequest) (session : UploadSession) : ChunkKey :=
  ⟨request.workspaceId, request.sessionId, session.chunkManifest.length⟩

theorem Overruns.not_recorded (h : Overruns σ request session) (hnumbered : Numbered session) :
    recordChunk session request session.chunkManifest.length
      (session.offset + request.chunkData.length) =
      .error (.valueError "new_offset must be <= size") := by
  have hpos := length_chunkData_pos request
  have hnonneg := session.offset_nonneg
  have hpast := h.past
  rw [recordChunk, addChunk_of_free h.checksum fun c hc => (hnumbered c hc).ne]
  simp only [bind, Except.bind, UploadSession.updateOffset]
  rw [if_neg (by omega), dif_neg (by omega), dif_pos hpast]

/-- An overrun is noticed once the bytes are stored. -/
theorem Overruns.run (h : Overruns σ request session) (hnumbered : Numbered session) :
    (execute (dependencies settings) request).run (serviceMachine env) [] σ =
      (.error (.valueError "new_offset must be <= size"),
        σ.putChunk (nextKey request session) request.chunkData) := by
  have hvalid := validate_of_checks h.active h.offset h.size h.checksum
  refine (Program.run_calm_bind_ok (run_getSession_of_reads h.reads)).trans ?_
  have hchecked : (MonadExcept.ofExcept (validate session request) : Service ℤ).run
      (serviceMachine env) [] σ = (.ok (session.chunkManifest.length : ℤ), σ) := by
    rw [run_ofExcept, hvalid]
  refine (Program.run_calm_bind_ok hchecked).trans ?_
  have hset : (tryExcept ((dependencies settings).redis.set (nextKey request session)
      request.chunkData chunkTtlSeconds) Exc.isException fun e => throw (.infrastructureError
        s!"Failed to store chunk {(session.chunkManifest.length : ℤ)} in Redis: {e.str}")).run
      (serviceMachine env) [] σ =
        (.ok (), σ.putChunk (nextKey request session) request.chunkData) :=
    Program.run_calm_tryCatch_ok rfl
  refine (Program.run_calm_bind_ok hset).trans (Program.run_calm_bind_error ?_)
  rw [run_ofExcept, h.not_recorded hnumbered]

/-- A chunk that passes the checks is recorded or overruns. -/
theorem overruns_of_not_recorded (hreads : σ.Reads request.workspaceId request.sessionId session)
    (hnumbered : Numbered session) (hvalid : validate session request = .ok index)
    (hrecord : recordChunk session request index (session.offset + request.chunkData.length) =
      .error e) : Overruns σ request session := by
  obtain ⟨hactive, hoffset, hsize, hchecksum, rfl⟩ := validate_eq_ok hvalid
  refine ⟨hreads, hactive, hoffset, hsize, hchecksum, lt_of_not_ge fun hroom => ?_⟩
  obtain ⟨plan, rfl⟩ := exists_plan_of_fits hactive hoffset hsize hchecksum
    (fun c hc => (hnumbered c hc).ne) hroom
  have hindex : plan.index = plan.session.chunkManifest.length :=
    (validate_eq_ok plan.validated).2.2.2.2
  rw [← hindex, plan.recorded] at hrecord
  cases hrecord

/-- A call that raises changes neither a session hash nor a chunk key exactly if its chunk does not
overrun, or the next key holds the same bytes with the same time to live. -/
theorem rejected_unchanged_iff (hσ : σ.Reachable env settings) (request : ProcessChunkRequest)
    (hrun : (execute (dependencies settings) request).run (serviceMachine env) [] σ =
      (.error e, σ')) :
    σ'.sessions = σ.sessions ∧ σ'.chunks = σ.chunks ↔
      ∀ session, Overruns σ request session → σ.chunks (nextKey request session) =
        some ⟨request.chunkData, σ.deadline chunkTtlSeconds⟩ := by
  constructor
  · intro ⟨_, hchunks⟩ session h
    have hstray := hrun.symm.trans (h.run (hσ.of_reads preserved_numbered h.reads))
    rw [Prod.mk.injEq] at hstray
    rw [← hchunks, hstray.2]
    exact Keyspace.put_self
  · intro h
    have houtcome : Outcome (fun _ => False) request σ
        ((execute (dependencies settings) request).run (serviceMachine env) [] σ).1
        ((execute (dependencies settings) request).run (serviceMachine env) [] σ).2 :=
      Program.run_calm_of_wp (wp_execute request (hσ.wellStored _))
    rw [hrun] at houtcome
    cases houtcome with
    | rejected => exact ⟨rfl, rfl⟩
    | stray _ session index hreads hvalid why =>
        refine ⟨rfl, ?_⟩
        obtain ⟨e, hrecord⟩ := why.resolve_right fun ⟨_, hfalse, _⟩ => hfalse
        have hover := overruns_of_not_recorded hreads (hσ.of_reads preserved_numbered hreads)
          hvalid hrecord
        obtain rfl := (validate_eq_ok hvalid).2.2.2.2
        exact Function.update_eq_self_iff.mpr (h session hover).symm

end ProcessChunkUseCase

namespace Sample

/-- Two bytes for a file of one. -/
def overlong : ProcessChunkRequest :=
  ⟨workspace, session, [1, 2], 0, sha256Hexdigest [1, 2], chunk.offset_nonneg, by decide,
    .inl (isHex64_sha256Hexdigest _)⟩

/-- A byte past the end of the file. -/
def misplaced : ProcessChunkRequest :=
  ⟨workspace, session, [2], 1, sha256Hexdigest [2], secondChunk.offset_nonneg,
    secondChunk.data_ne_nil, secondChunk.checksum_matches⟩

end Sample

namespace ProcessChunkUseCase

/-- A chunk at the wrong offset: the store is as it was, and no session is overrun by the chunk. -/
theorem rejected_unchanged_iff_sample :
    (((execute (dependencies Sample.settings) Sample.misplaced).run
        (serviceMachine Sample.environment) [] Sample.initiated).2.sessions =
          Sample.initiated.sessions ∧
      ((execute (dependencies Sample.settings) Sample.misplaced).run
        (serviceMachine Sample.environment) [] Sample.initiated).2.chunks =
          Sample.initiated.chunks) ↔
      ∀ session, Overruns Sample.initiated Sample.misplaced session →
        Sample.initiated.chunks (nextKey Sample.misplaced session) =
          some ⟨Sample.misplaced.chunkData, Sample.initiated.deadline chunkTtlSeconds⟩ := by
  have hreads : Sample.initiated.Reads Sample.workspace Sample.session Sample.pendingSession :=
    ⟨by decide, rfl, by decide +kernel⟩
  have hrejected : validate Sample.pendingSession Sample.misplaced =
      .error (.offsetMismatchError 0 1 Sample.session) := by decide +kernel
  have hreachable : Sample.initiated.Reachable Sample.environment Sample.settings :=
    Run.reachable_steps _
  have hrun : (execute (dependencies Sample.settings) Sample.misplaced).run
      (serviceMachine Sample.environment) [] Sample.initiated =
        (.error (.offsetMismatchError 0 1 Sample.session), Sample.initiated) :=
    run_of_rejected hreads hrejected
  have hiff := rejected_unchanged_iff hreachable Sample.misplaced hrun
  rw [hrun]
  exact hiff

/-- The overlong chunk is refused, and its bytes are there. -/
theorem overlong_leaves_bytes :
    ¬ (Sample.initiated.Reachable Sample.environment Sample.settings →
      ((execute (dependencies Sample.settings) Sample.overlong).run
        (serviceMachine Sample.environment) [] Sample.initiated).1 =
          .error (.valueError "new_offset must be <= size") →
      ((execute (dependencies Sample.settings) Sample.overlong).run
        (serviceMachine Sample.environment) [] Sample.initiated).2.chunks
          ⟨Sample.workspace, Sample.session, 0⟩ =
        Sample.initiated.chunks ⟨Sample.workspace, Sample.session, 0⟩) :=
  fun h => absurd (h (Run.reachable_steps _) (by decide +kernel)) (by decide +kernel)

end ProcessChunkUseCase

end RagFileUploader
