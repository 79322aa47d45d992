import RagFileUploader.Concurrent.ChunkCalls
import RagFileUploader.Encoding.Literals
import RagFileUploader.Presentation.QueryUploadOffset
import RagFileUploader.Serial.Representation
import RagFileUploader.Sessions.Operations

/-!
# Resuming an upload

The offset query and the chunk use case read the session on their own and check it on their own.
They agree in every state of a serial run: a chunk at the offset that the query answers is
accepted, any other is rejected with that offset, and the next query answers accordingly.  The
manifest is what could come between them, since the index of a new chunk must be free; that it
lists `0, 1, ..., n - 1` is part of what a stored session represents.
-/

namespace RagFileUploader

open Effects Stores

variable {env : Environment} {settings : Settings} {F : Fault → Prop} {σ : World} {w s : UUID}
  {session : UploadSession}

/-! ## The offset query -/

theorem wp_getSessionWithExpiryInfo
    {Q : Except Exc (Option UploadSession × Option ExpiryMetadata) → World → Prop}
    (hσ : σ.StoredWell ⟨w, s⟩)
    (hsome : ∀ session, σ.Reads w s session → Q (.ok (some session, none)) σ)
    (hnone : ∀ metadata?, Q (.ok (none, metadata?)) σ)
    (hfail : ∀ e, e.isException = true → Q (.error e) σ) :
    (RedisSessionStore.getSessionWithExpiryInfo w s).wp (serviceMachine env) F Q σ := by
  refine wp_ofExcept_bind (fun key hkey => ?_) fun e he =>
    hfail e (Exc.isException_of_isPlain (sessionKey_eq_error he).2)
  obtain ⟨rfl, hvalid⟩ := sessionKey_eq_ok hkey
  rw [Program.wp_tryCatch, Program.wp_bind]
  refine wp_send ?_ fun _ e he _ => hfail _ (RedisSessionStore.isException_readError he)
  simp only [Command.act]
  cases hread : σ.session? ⟨w, s⟩ with
  | some data =>
      obtain ⟨d, hentry, -⟩ := Keyspace.get?_eq_some_iff.mp hread
      obtain ⟨-, session, hsession, hdata⟩ := hσ _ hentry
      obtain rfl : data = RedisSessionStore.serializeSession session := hdata
      simp only [RedisSessionStore.deserialize_serialize]
      exact hsome session ⟨hvalid, hsession, hread⟩
  | none =>
      dsimp only
      rw [Program.wp_bind]
      refine wp_send ?_ fun _ e he _ => hfail _ (RedisSessionStore.isException_readError he)
      simp only [Command.act]
      cases σ.expiry.get? σ.clock s with
      | none => exact hnone none
      | some metadata =>
          dsimp only
          split
          · exact hnone none
          · exact hnone (some metadata)

namespace QueryUploadOffset

/-- The query of a caller of the workspace, alone. -/
def call (env : Environment) (settings : Settings) (σ : World) (w s : UUID)
    (faults : List (Option Fault)) : Except Exc (Except HTTPException HTTPResponse) × World :=
  (execute (dependencies settings) w s).run (serviceMachine env) faults σ

theorem offsetResponse_inj {o n o' n' : ℤ} (h : offsetResponse o n = offsetResponse o' n') :
    o = o' ∧ n = n' := by
  simp only [offsetResponse, HTTPResponse.mk.injEq, List.cons.injEq, Prod.mk.injEq, true_and,
    and_true] at h
  exact ⟨Encoding.toString_int_injective h.1, Encoding.toString_int_injective h.2⟩

theorem answer_of_active (hactive : ¬ session.status.Terminal) :
    answer s session = .ok (offsetResponse session.offset session.size) := by
  have hstatus : ¬ (session.status = .complete ∨ session.status = .aborted ∨
      session.status = .failed) := fun h =>
    hactive (h.imp_right Or.symm)
  have hoffset : ¬ (session.offset < 0 ∨ session.offset > session.size) :=
    not_or.mpr ⟨not_lt.mpr session.offset_nonneg, not_lt.mpr session.offset_le⟩
  rw [answer, if_neg hstatus, if_neg hoffset]

theorem active_of_answer {response : HTTPResponse} (h : answer s session = .ok response) :
    ¬ session.status.Terminal ∧ response = offsetResponse session.offset session.size := by
  have hactive : ¬ session.status.Terminal := by
    intro hterminal
    rw [answer, if_pos (hterminal.imp_right Or.symm)] at h
    cases h
  rw [answer_of_active hactive] at h
  cases h
  exact ⟨hactive, rfl⟩

/-- An answer comes from a session that is stored and under way, and changes nothing. -/
theorem call_eq_ok (hσ : σ.StoredWell ⟨w, s⟩) {faults : List (Option Fault)} {o n : ℤ}
    (h : (call env settings σ w s faults).1 = .ok (.ok (offsetResponse o n))) :
    (call env settings σ w s faults).2 = σ ∧ ∃ session, σ.Reads w s session ∧
      ¬ session.status.Terminal ∧ session.offset = o ∧ session.size = n := by
  have hwp : (execute (dependencies settings) w s).wp (serviceMachine env) (fun _ => True)
      (fun r σ' => r = .ok (.ok (offsetResponse o n)) → σ' = σ ∧ ∃ session, σ.Reads w s session ∧
        ¬ session.status.Terminal ∧ session.offset = o ∧ session.size = n) σ := by
    rw [execute, Program.wp_bind, lookup, Program.wp_tryCatch]
    refine wp_map (wp_getSessionWithExpiryInfo hσ (fun session hreads hanswer => ?_)
      (fun metadata? => ?_) fun e he => ?_)
    · obtain ⟨hactive, heq⟩ := active_of_answer (Except.ok.inj hanswer)
      obtain ⟨rfl, rfl⟩ := offsetResponse_inj heq
      exact ⟨rfl, session, hreads, hactive, rfl, rfl⟩
    · refine wp_map (Program.wp_mono Program.wp_true fun r σ' _ hanswer => ?_)
      cases r <;> cases hanswer
    · dsimp only
      refine wp_map (Program.wp_mono (Q := fun _ _ => True) Program.wp_true fun r σ' _ => ?_)
      cases r with
      | ok error => exact fun hanswer => nomatch hanswer
      | error e => exact fun hanswer => nomatch hanswer
  exact Program.run_of_wp hwp (fun _ _ => trivial) h

theorem call_of_reads (hreads : σ.Reads w s session) :
    call env settings σ w s [] = (.ok (answer s session), σ) := by
  have hlookup : (RedisSessionStore.getSessionWithExpiryInfo w s).run (serviceMachine env) [] σ =
      (.ok (some session, none), σ) := by
    rw [RedisSessionStore.run_getSessionWithExpiryInfo, sessionKey_of_valid hreads.valid]
    change (RedisSessionStore.infoReply w (σ.session? ⟨w, s⟩) _, σ) = _
    simp only [hreads.stored, RedisSessionStore.infoReply, RedisSessionStore.deserialize_serialize]
  have hfound : (lookup (dependencies settings) w s).run (serviceMachine env) [] σ =
      (.ok (.ok (some session, none)), σ) :=
    Program.run_calm_tryCatch_ok (Program.run_calm_bind_ok hlookup)
  exact Program.run_calm_bind_ok hfound

end QueryUploadOffset

/-! ## The chunk use case -/

namespace ProcessChunkUseCase

variable {request : ProcessChunkRequest}

/-- A chunk at the right offset that is within the limits has a plan, if its index is free. -/
theorem exists_plan_of_fits (hactive : ¬ session.status.Terminal)
    (hoffset : request.chunkOffset = session.offset)
    (hmax : (request.chunkData.length : ℤ) ≤ maxChunkSize)
    (hchecksum : request.chunkChecksum = sha256Hexdigest request.chunkData)
    (hfree : ∀ c ∈ session.chunkManifest, c.index ≠ session.chunkManifest.length)
    (hroom : session.offset + request.chunkData.length ≤ session.size) :
    ∃ plan : Plan request, plan.session = session := by
  have hvalid := validate_of_checks hactive hoffset hmax hchecksum
  have hrecord : ∃ next, recordChunk session request session.chunkManifest.length
      (session.offset + request.chunkData.length) = .ok next := by
    have hnonneg := session.offset_nonneg
    rw [recordChunk, addChunk_of_free hchecksum hfree]
    simp only [bind, Except.bind, UploadSession.updateOffset]
    rw [if_neg (by omega), dif_neg (by omega), dif_neg (by omega)]
    dsimp only
    split
    · exact ⟨_, by simp [UploadSession.markInProgress, raiseIf, hactive, pure, Except.pure, bind,
        Except.bind]; rfl⟩
    · exact ⟨_, rfl⟩
  obtain ⟨next, hnext⟩ := hrecord
  exact ⟨⟨session, _, next, hvalid, hnext⟩, rfl⟩

theorem run_getSession_of_reads (hreads : σ.Reads w s session) :
    (RedisSessionStore.getSession w s).run (serviceMachine env) [] σ = (.ok (some session), σ) := by
  rw [RedisSessionStore.run_getSession, sessionKey_of_valid hreads.valid]
  change (RedisSessionStore.readReply (.ok (σ.session? _)), σ) = _
  rw [hreads.stored]
  simp only [RedisSessionStore.readReply, RedisSessionStore.deserialize_serialize]

/-- A chunk that does not pass the checks leaves no trace. -/
theorem run_of_rejected {e : Exc} (hreads : σ.Reads request.workspaceId request.sessionId session)
    (h : validate session request = .error e) :
    (execute (dependencies settings) request).run (serviceMachine env) [] σ = (.error e, σ) := by
  refine (Program.run_calm_bind_ok (run_getSession_of_reads hreads)).trans
    (Program.run_calm_bind_error ?_)
  rw [run_ofExcept, h]

/-- At another offset the client is told the right one. -/
theorem validate_of_offset_ne (hactive : ¬ session.status.Terminal)
    (hoffset : request.chunkOffset ≠ session.offset) :
    validate session request =
      .error (.offsetMismatchError session.offset request.chunkOffset session.sessionId) := by
  have hmismatch : Exc.offsetMismatch session.offset request.chunkOffset session.sessionId =
      .offsetMismatchError session.offset request.chunkOffset session.sessionId := by
    rw [Exc.offsetMismatch, if_neg (not_lt.mpr session.offset_nonneg),
      if_neg (not_lt.mpr request.offset_nonneg)]
  simp only [validate, raiseIf, if_neg hactive, if_pos hoffset, hmismatch]
  rfl

end ProcessChunkUseCase

/-! ## Agreement -/

/-- After the offset query answered `o` of `n`: a chunk at `o` is accepted and the next query
answers the offset after it; a chunk elsewhere is rejected with `o`, and the next query still
answers `o`. -/
structure Resumable (env : Environment) (settings : Settings) (σ : World) (w s : UUID) (o n : ℤ) :
    Prop where
  accepts : ∀ request : ProcessChunkRequest, request.workspaceId = w → request.sessionId = s →
    request.chunkOffset = o → (request.chunkData.length : ℤ) ≤ min 10485760 (n - o) →
    request.chunkChecksum = sha256Hexdigest request.chunkData →
    (Run.call env settings σ (.processChunk request) []).1 =
        .ok (.chunkProcessed ⟨o + request.chunkData.length⟩) ∧
      (QueryUploadOffset.call env settings
        (Run.call env settings σ (.processChunk request) []).2 w s []).1 =
          .ok (.ok (QueryUploadOffset.offsetResponse (o + request.chunkData.length) n))
  rejects : ∀ request : ProcessChunkRequest, request.workspaceId = w → request.sessionId = s →
    request.chunkOffset ≠ o →
    (Run.call env settings σ (.processChunk request) []).1 =
        .error (.offsetMismatchError o request.chunkOffset s) ∧
      (QueryUploadOffset.call env settings
        (Run.call env settings σ (.processChunk request) []).2 w s []).1 =
          .ok (.ok (QueryUploadOffset.offsetResponse o n))

/-- The response of a call alone is that of the use case. -/
theorem Run.call_processChunk (request : ProcessChunkRequest) :
    Run.call env settings σ (.processChunk request) [] =
      Prod.map (Except.map .chunkProcessed) id
        ((ProcessChunkUseCase.execute (dependencies settings) request).run
          (serviceMachine env) [] σ) :=
  Program.run_calm_map _ _ _ _

/-- A session under way whose manifest is in order can be resumed where it stands. -/
theorem resumable_of_reads (hreads : σ.Reads w s session) (hactive : ¬ session.status.Terminal)
    (hfree : ∀ c ∈ session.chunkManifest, c.index ≠ session.chunkManifest.length) :
    Resumable env settings σ w s session.offset session.size where
  accepts := by
    rintro request rfl rfl hoffset hmax hchecksum
    obtain ⟨plan, rfl⟩ := ProcessChunkUseCase.exists_plan_of_fits hactive hoffset
      (hmax.trans (min_le_left _ _)) hchecksum hfree
      (by have := hmax.trans (min_le_right _ _); omega)
    have hrun := ProcessChunkUseCase.run_of_plan env settings plan hreads
    have hkey : plan.next.key = ⟨request.workspaceId, request.sessionId⟩ :=
      plan.key_next.trans hreads.key_eq
    have hnext : plan.next.offset = plan.session.offset + request.chunkData.length := by
      rw [plan.offset_next, hoffset]
    rw [Run.call_processChunk, hrun]
    refine ⟨by simp [Except.map, hnext], ?_⟩
    have hreads' : (((σ.putChunk ⟨request.workspaceId, request.sessionId, plan.index⟩
        request.chunkData).putSession plan.next)).Reads request.workspaceId request.sessionId
          plan.next :=
      ⟨hreads.valid, hkey, World.session?_putSession hkey⟩
    have hstatus : ¬ plan.next.status.Terminal := by
      simp [plan.toSessionFields_next, SessionStatus.Terminal]
    have hsize : plan.next.size = plan.session.size := by
      simp [plan.toSessionFields_next]
    simp only [Prod.map, id]
    rw [QueryUploadOffset.call_of_reads hreads', QueryUploadOffset.answer_of_active hstatus, hnext,
      hsize]
  rejects := by
    rintro request rfl rfl hoffset
    have hid : session.sessionId = request.sessionId :=
      congrArg SessionKey.documentId hreads.key_eq
    rw [Run.call_processChunk, ProcessChunkUseCase.run_of_rejected hreads
      (ProcessChunkUseCase.validate_of_offset_ne hactive hoffset), hid]
    refine ⟨rfl, ?_⟩
    simp only [Prod.map, id]
    rw [QueryUploadOffset.call_of_reads hreads, QueryUploadOffset.answer_of_active hactive]

/-- In every state of a serial run, whatever failed before, the offset query and the chunk use
case agree on where an upload can be resumed. -/
theorem resume_agreement (env : Environment) (settings : Settings) (ops : List Op) (w s : UUID)
    (faults : List (Option Fault)) (o n : ℤ)
    (hanswers : (QueryUploadOffset.call env settings
      (Run.steps env settings Run.start ops).world w s faults).1 =
        .ok (.ok (QueryUploadOffset.offsetResponse o n))) :
    Resumable env settings (QueryUploadOffset.call env settings
      (Run.steps env settings Run.start ops).world w s faults).2 w s o n := by
  obtain ⟨hsame, session, hreads, hactive, rfl, rfl⟩ :=
    QueryUploadOffset.call_eq_ok (Run.wellStored_steps ops _) hanswers
  rw [hsame]
  refine resumable_of_reads hreads hactive fun c hc hindex => ?_
  obtain ⟨d, hentry, -⟩ := hreads.exists_entry
  have hmanifest : session.chunkManifest = manifestOf _ :=
    (represented_steps ops _ _ hentry).manifest
  rw [hmanifest] at hc hindex
  obtain ⟨i, data, hi, rfl⟩ := mem_manifestOf.mp hc
  rw [length_manifestOf] at hindex
  have hlt := (List.getElem?_eq_some_iff.mp hi).1
  dsimp only at hindex
  omega

/-- A fresh session of one byte answers `0` of `1`. -/
theorem resume_agreement_sample :
    Resumable Sample.environment Sample.settings (QueryUploadOffset.call Sample.environment
      Sample.settings (Run.steps Sample.environment Sample.settings Run.start
        [.call (.initiate Sample.upload) []]).world Sample.workspace Sample.session []).2
      Sample.workspace Sample.session 0 1 :=
  resume_agreement Sample.environment Sample.settings [.call (.initiate Sample.upload) []]
    Sample.workspace Sample.session [] 0 1 (by decide +kernel)

end RagFileUploader
